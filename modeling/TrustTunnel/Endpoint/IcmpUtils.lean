import TrustTunnel.Endpoint.NetUtils

/-!
# ICMP messages

The messages that the endpoint reads from its raw sockets, and the echo request
that a message responds to. Echo requests are compared by identifier, sequence
number and the shorter of the two payloads, so that a request matches its quotation
in an error that has room for the beginning of the payload only.
-/

namespace TrustTunnel.Endpoint.IcmpUtils

def typeSize : Nat := 1
def codeSize : Nat := 1
def checksumSize : Nat := 2
def icmpIdSize : Nat := 2
def icmpSeqnoSize : Nat := 2
def icmpMinCommonHeaderSize : Nat := typeSize + codeSize + checksumSize + 4
def echoHeaderSize : Nat := typeSize + codeSize + checksumSize + icmpIdSize + icmpSeqnoSize

structure Echo where
  code : UInt8
  identifier : UInt16
  sequenceNumber : UInt16
  data : Bytes
  deriving DecidableEq

namespace Echo

/-- The same identifier and sequence number: what `Hash for Echo` feeds to the hasher. -/
def SameIds (self other : Echo) : Prop :=
  self.identifier = other.identifier ∧ self.sequenceNumber = other.sequenceNumber

instance (self other : Echo) : Decidable (self.SameIds other) := inferInstanceAs (Decidable (_ ∧ _))

/-- `PartialEq for Echo`. -/
def eq (self other : Echo) : Bool :=
  if self.identifier ≠ other.identifier ∨ self.sequenceNumber ≠ other.sequenceNumber then
    false
  else if self.data.length ≥ other.data.length then other.data.isPrefixOf self.data
  else self.data.isPrefixOf other.data

variable {self other : Echo}

lemma eq_iff :
    self.eq other = true ↔
      self.SameIds other ∧ (self.data <+: other.data ∨ other.data <+: self.data) := by
  rw [eq]
  split
  · rename_i differ
    constructor
    · intro equal
      cases equal
    · intro same
      cases differ with
      | inl differ => exact absurd same.1.1 differ
      | inr differ => exact absurd same.1.2 differ
  · rename_i same
    rw [not_or, not_not, not_not] at same
    split
    · rename_i longer
      rw [List.isPrefixOf_iff_prefix]
      constructor
      · intro shared
        exact ⟨same, .inr shared⟩
      · intro both
        cases both.2 with
        | inl shared =>
          have equal := shared.eq_of_length_le longer
          exact equal ▸ List.prefix_refl _
        | inr shared => exact shared
    · rw [List.isPrefixOf_iff_prefix]
      constructor
      · intro shared
        exact ⟨same, .inl shared⟩
      · intro both
        cases both.2 with
        | inl shared => exact shared
        | inr shared => exact absurd shared.length_le (by omega)

lemma eq_refl (self : Echo) : self.eq self = true :=
  eq_iff.mpr ⟨⟨rfl, rfl⟩, .inl (List.prefix_refl _)⟩

lemma eq_comm (self other : Echo) : self.eq other = other.eq self := by
  rw [Bool.eq_iff_iff, eq_iff, eq_iff, or_comm, SameIds]
  constructor
  · intro same
    exact ⟨⟨same.1.1.symm, same.1.2.symm⟩, same.2⟩
  · intro same
    exact ⟨⟨same.1.1.symm, same.1.2.symm⟩, same.2⟩

lemma sameIds_of_eq (equal : self.eq other = true) : self.SameIds other := (eq_iff.mp equal).1

/-- `Hash for Echo`, with the `write` of any hasher. -/
def hash {H : Type} (write : UInt16 → H → H) (self : Echo) (state : H) : H :=
  write self.sequenceNumber (write self.identifier state)

/-- What a hash map relies on for three of its keys. -/
structure KeyLaws (a b c : Echo) : Prop where
  refl : a.eq a = true
  symm : a.eq b = true → b.eq a = true
  trans : a.eq b = true → b.eq c = true → a.eq c = true
  hashed {H : Type} (write : UInt16 → H → H) (state : H) :
    a.eq b = true → a.hash write state = b.hash write state

/-- The laws hold unless the three have the same ids and the payload in the middle begins both
others, of which neither begins the other one. -/
theorem keyLaws_iff (a b c : Echo) :
    KeyLaws a b c ↔
      ¬((a.SameIds b ∧ b.SameIds c) ∧ (b.data <+: a.data ∧ b.data <+: c.data) ∧
        ¬(a.data <+: c.data ∨ c.data <+: a.data)) := by
  constructor
  · rintro laws ⟨⟨ab, bc⟩, ⟨before, behind⟩, differ⟩
    exact differ (eq_iff.mp (laws.trans (eq_iff.mpr ⟨ab, .inr before⟩)
      (eq_iff.mpr ⟨bc, .inl behind⟩))).2
  · intro apart
    refine ⟨eq_refl a, fun equal => (eq_comm b a).trans equal, fun first second => ?_, ?_⟩
    · rw [eq_iff] at first second ⊢
      refine ⟨⟨first.1.1.trans second.1.1, first.1.2.trans second.1.2⟩, ?_⟩
      rcases first.2, second.2 with ⟨ab | ba, bc | cb⟩
      · exact .inl (ab.trans bc)
      · exact List.prefix_or_prefix_of_prefix ab cb
      · exact not_not.mp fun differ => apart ⟨⟨first.1, second.1⟩, ⟨ba, bc⟩, differ⟩
      · exact .inr (cb.trans ba)
    · intro _ _ _ equal
      rw [hash, hash, (sameIds_of_eq equal).1, (sameIds_of_eq equal).2]

/-- A request without a payload equals two requests that differ. -/
theorem not_keyLaws_empty : ¬KeyLaws ⟨0, 1, 1, [1]⟩ ⟨0, 1, 1, []⟩ ⟨0, 1, 1, [2]⟩ := by
  intro laws
  exact absurd (laws.trans (by decide) (by decide)) (by decide)

end Echo

/-! ## Reading a message -/

inductive DeserializeError where
  | invalidLength (msg : String)
  | messageType (typeId : UInt8)
  | destinationUnreachableCode (code : UInt8)
  | timeExceededCode (code : UInt8)
  deriving DecidableEq

abbrev DeserializeResult (α : Type) := Except DeserializeError α

inductive LengthCheck where
  | exact (length : Nat)
  | lowerBound (length : Nat)

namespace LengthCheck

/-- The error for a packet whose length does not pass the check. -/
def violation : LengthCheck → Nat → Option DeserializeError
  | .exact n, m =>
    if n ≠ m then
      some (.invalidLength s!"Expected length: {n}, packet length: {m}")
    else none
  | .lowerBound n, m =>
    if m < n then
      some (.invalidLength s!"Expected length at least: {n}, packet length: {m}")
    else none

end LengthCheck

/-- `deserialize_packet!`: the type of the message has been taken off the packet. -/
def deserializePacket {α : Type} (func : UInt8 → Bytes → Except Fault (DeserializeResult α))
    (packet : Bytes) (lengthCheck : LengthCheck) : Except Fault (DeserializeResult α) :=
  match lengthCheck.violation (1 + packet.length) with
  | some error => .ok (.error error)
  | none => do
      let (code, packet) ← packet.getU8
      let (_, packet) ← packet.splitTo checksumSize
      func code packet

def parseEcho (code : UInt8) (packet : Bytes) : Except Fault (DeserializeResult Echo) := do
  let (identifier, packet) ← packet.getU16
  let (sequenceNumber, packet) ← packet.getU16
  return .ok ⟨code, identifier, sequenceNumber, packet⟩

/-- The echo request at the start of a payload. -/
def quotedEcho (proto typeId : UInt8) (lengthCheck : LengthCheck)
    (skipped : Option (UInt8 × Bytes)) : Except Fault (Option Echo) :=
  match skipped with
  | some (nextProtocol, first :: payload) => do
      if nextProtocol ≠ proto ∨ first ≠ typeId then
        return none
      let result ← deserializePacket parseEcho payload lengthCheck
      return result.toOption
  | _ => .ok none

namespace V4

structure Timestamp where
  code : UInt8
  identifier : UInt16
  sequenceNumber : UInt16
  originateTimestamp : UInt32
  receiveTimestamp : UInt32
  transmitTimestamp : UInt32
  deriving DecidableEq

structure Information where
  code : UInt8
  identifier : UInt16
  sequenceNumber : UInt16
  deriving DecidableEq

inductive Message where
  | destinationUnreachable (code : UInt8) (data : Bytes)
  | timeExceeded (code : UInt8) (data : Bytes)
  | parameterProblem (code pointer : UInt8) (data : Bytes)
  | sourceQuench (code : UInt8) (data : Bytes)
  | redirect (code : UInt8) (gatewayRedirectAddress : UInt32) (data : Bytes)
  | echo (echo : Echo)
  | echoReply (echo : Echo)
  | timestamp (timestamp : Timestamp)
  | timestampReply (timestamp : Timestamp)
  | informationRequest (information : Information)
  | informationReply (information : Information)
  deriving DecidableEq

def TypeId.echo : UInt8 := 8

namespace Message

/-- The beginning of the packet that an error is about. -/
def icmpData : Message → Option Bytes
  | .destinationUnreachable _ data => some data
  | .timeExceeded _ data => some data
  | .parameterProblem _ _ data => some data
  | .sourceQuench _ data => some data
  | .redirect _ _ data => some data
  | _ => none

def respondedEchoRequest (self : Message) : Except Fault (Option Echo) :=
  match self with
  | .echoReply x => .ok (some x)
  | _ =>
    match self.icmpData with
    | none => .ok none
    | some data => do
        let skipped ← NetUtils.skipIpv4Header data
        quotedEcho NetUtils.ipprotoIcmp TypeId.echo (.lowerBound echoHeaderSize) skipped

end Message

end V4

namespace V6

inductive Message where
  | destinationUnreachable (code : UInt8) (data : Bytes)
  | packetTooBig (code : UInt8) (mtu : UInt32) (data : Bytes)
  | timeExceeded (code : UInt8) (data : Bytes)
  | parameterProblem (code : UInt8) (pointer : UInt32) (data : Bytes)
  | echoRequest (echo : Echo)
  | echoReply (echo : Echo)
  deriving DecidableEq

def TypeId.echoRequest : UInt8 := 128

namespace Message

/-- The beginning of the packet that an error is about. -/
def icmpData : Message → Option Bytes
  | .destinationUnreachable _ data => some data
  | .packetTooBig _ _ data => some data
  | .timeExceeded _ data => some data
  | .parameterProblem _ _ data => some data
  | _ => none

def respondedEchoRequest (self : Message) : Except Fault (Option Echo) :=
  match self with
  | .echoReply x => .ok (some x)
  | _ =>
    match self.icmpData with
    | none => .ok none
    | some data => do
        let skipped ← NetUtils.skipIpv6Header data
        quotedEcho NetUtils.ipprotoIcmpv6 TypeId.echoRequest
          (.lowerBound icmpMinCommonHeaderSize) skipped

end Message

end V6

inductive Message where
  | v4 (msg : V4.Message)
  | v6 (msg : V6.Message)
  deriving DecidableEq

namespace Message

/-- The echo request that the message responds to. -/
def respondedEchoRequest : Message → Except Fault (Option Echo)
  | .v4 msg => msg.respondedEchoRequest
  | .v6 msg => msg.respondedEchoRequest

/-- The echo request that the message is found to respond to. -/
def quoted (self : Message) : Option Echo :=
  match self.respondedEchoRequest with
  | .ok req => req
  | .error _ => none

/-- The echo of an echo reply. -/
def echoReply : Message → Option Echo
  | .v4 (.echoReply x) => some x
  | .v6 (.echoReply x) => some x
  | _ => none

end Message

end TrustTunnel.Endpoint.IcmpUtils
