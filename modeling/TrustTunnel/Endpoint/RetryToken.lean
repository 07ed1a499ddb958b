import TrustTunnel.Net.Address

/-!
# Stateless retry tokens

The token of a QUIC retry is a secret, the address of the peer and the connection ID that
the peer chose. Nothing in it says how long the address is: the 6 bytes of an IPv4 address
and its port can be the beginning of the 18 bytes of an IPv6 address and its port.
-/

namespace TrustTunnel.Endpoint.QuicMultiplexer

open List

def tokenPrefixSize : Nat := 16

abbrev TokenPrefix := List.Vector UInt8 tokenPrefixSize

/-- `quiche::Header`, of which the destination connection ID is used. -/
structure Header where
  dcid : Bytes

def socketAddrToVec (addr : SocketAddr) : Bytes :=
  match addr.ip with
  | .v4 octets => octets.toList ++ Wire.beBytes 2 addr.port.toNat
  | .v6 octets => octets.toList ++ Wire.beBytes 2 addr.port.toNat

def mintToken (header : Header) (secret : TokenPrefix) (peer : SocketAddr) : Bytes :=
  secret.toList ++ (socketAddrToVec peer ++ header.dcid)

def validateToken (secret : TokenPrefix) (peer : SocketAddr) (token : Bytes) : Option Bytes :=
  (token.dropPrefix? secret.toList).bind (·.dropPrefix? (socketAddrToVec peer))

/-- The token that `minter` was given is accepted from `presenter` exactly when both have the
same address and port, and then it yields the connection ID it was minted for. -/
structure BoundToPeer (secret : TokenPrefix) (minter presenter : SocketAddr)
    (header : Header) : Prop where
  accepted : (validateToken secret presenter (mintToken header secret minter)).isSome = true ↔
    minter.ip = presenter.ip ∧ minter.port = presenter.port
  original : minter = presenter →
    validateToken secret presenter (mintToken header secret minter) = some header.dcid

/-- The bytes behind the secret begin with the address of the presenter, although that is of
another family than the address of the minter. -/
def Confusable (minter presenter : SocketAddr) (dcid : Bytes) : Prop :=
  match minter.ip, presenter.ip with
  | .v4 own, .v6 other =>
    other.toList.take 6 = own.toList ++ Wire.beBytes 2 minter.port.toNat ∧
      other.toList.drop 6 ++ Wire.beBytes 2 presenter.port.toNat <+: dcid
  | .v6 own, .v4 other => own.toList.take 6 = other.toList ++ Wire.beBytes 2 presenter.port.toNat
  | _, _ => False

/-! ## What a token is accepted for -/

lemma dropPrefix?_append (front back : Bytes) : (front ++ back).dropPrefix? front = some back :=
  dropPrefix?_eq_some_iff.mpr ⟨front, rfl, beq_self_eq_true _⟩

lemma isSome_dropPrefix? {bytes front : Bytes} :
    (bytes.dropPrefix? front).isSome = true ↔ front <+: bytes := by
  rw [Option.isSome_iff_exists]
  constructor
  · rintro ⟨back, dropped⟩
    obtain ⟨same, split, equal⟩ := dropPrefix?_eq_some_iff.mp dropped
    rw [eq_of_beq equal] at split
    exact ⟨back, split.symm⟩
  · rintro ⟨back, rfl⟩
    exact ⟨back, dropPrefix?_append front back⟩

lemma validateToken_mintToken (secret : TokenPrefix) (minter presenter : SocketAddr)
    (header : Header) :
    validateToken secret presenter (mintToken header secret minter) =
      (socketAddrToVec minter ++ header.dcid).dropPrefix? (socketAddrToVec presenter) := by
  rw [validateToken, mintToken, dropPrefix?_append, Option.bind_some]

lemma beBytes_port_inj {left right : UInt16}
    (same : Wire.beBytes 2 left.toNat = Wire.beBytes 2 right.toNat) : left = right := by
  rw [← port_of_wire left, ← port_of_wire right, same]

variable (ownPort otherPort : UInt16) (dcid : Bytes)

/-- Address and port can be read off their bytes once the length of the address is known. -/
lemma prefix_iff_of_length {size : Nat} (own other : List.Vector UInt8 size) :
    other.toList ++ Wire.beBytes 2 otherPort.toNat <+:
        own.toList ++ Wire.beBytes 2 ownPort.toNat ++ dcid ↔
      own = other ∧ ownPort = otherPort := by
  constructor
  · intro front
    have whole := prefix_of_prefix_length_le front (prefix_append _ dcid) (by simp)
    obtain ⟨addresses, ports⟩ := append_inj (whole.eq_of_length (by simp)) (by simp)
    exact ⟨(List.Vector.toList_injective addresses).symm, (beBytes_port_inj ports).symm⟩
  · rintro ⟨rfl, rfl⟩
    exact prefix_append _ _

/-- An IPv6 address and its port stand in front of the token of an IPv4 address. -/
lemma prefix_iff_of_longer (own : Ipv4Addr) (other : Ipv6Addr) :
    other.toList ++ Wire.beBytes 2 otherPort.toNat <+:
        own.toList ++ Wire.beBytes 2 ownPort.toNat ++ dcid ↔
      other.toList.take 6 = own.toList ++ Wire.beBytes 2 ownPort.toNat ∧
        other.toList.drop 6 ++ Wire.beBytes 2 otherPort.toNat <+: dcid := by
  conv_lhs => rw [← take_append_drop 6 other.toList, append_assoc]
  constructor
  · rintro ⟨rest, split⟩
    rw [append_assoc] at split
    obtain ⟨same, behind⟩ := append_inj split (by simp)
    exact ⟨same, rest, behind⟩
  · rintro ⟨same, rest, behind⟩
    rw [same, ← behind]
    exact ⟨rest, by rw [append_assoc]⟩

/-- An IPv4 address and its port stand in front of the token of an IPv6 address. -/
lemma prefix_iff_of_shorter (own : Ipv6Addr) (other : Ipv4Addr) :
    other.toList ++ Wire.beBytes 2 otherPort.toNat <+:
        own.toList ++ Wire.beBytes 2 ownPort.toNat ++ dcid ↔
      own.toList.take 6 = other.toList ++ Wire.beBytes 2 otherPort.toNat := by
  rw [prefix_iff_eq_take, eq_comm]
  simp [take_append]

/-- A token is bound to its peer unless an address of the other family fits into it. -/
theorem boundToPeer_iff (secret : TokenPrefix) (minter presenter : SocketAddr) (header : Header) :
    BoundToPeer secret minter presenter header ↔ ¬Confusable minter presenter header.dcid := by
  have original : minter = presenter →
      validateToken secret presenter (mintToken header secret minter) = some header.dcid := by
    rintro rfl
    rw [validateToken_mintToken, dropPrefix?_append]
  have accepted : (validateToken secret presenter (mintToken header secret minter)).isSome = true ↔
      socketAddrToVec presenter <+: socketAddrToVec minter ++ header.dcid := by
    rw [validateToken_mintToken, isSome_dropPrefix?]
  have bound : BoundToPeer secret minter presenter header ↔
      (socketAddrToVec presenter <+: socketAddrToVec minter ++ header.dcid ↔
        minter.ip = presenter.ip ∧ minter.port = presenter.port) := by
    constructor
    · intro bound
      exact accepted.symm.trans bound.accepted
    · intro exactly
      exact ⟨accepted.trans exactly, original⟩
  rw [bound]
  obtain ⟨ownIp, ownPort⟩ := minter
  obtain ⟨otherIp, otherPort⟩ := presenter
  cases ownIp with
  | v4 own =>
    cases otherIp with
    | v4 other =>
      have exactly := prefix_iff_of_length ownPort otherPort header.dcid own other
      simp only [socketAddrToVec, Confusable, exactly, IpAddr.v4.injEq, not_false_eq_true]
    | v6 other =>
      have exactly := prefix_iff_of_longer ownPort otherPort header.dcid own other
      simp only [socketAddrToVec, Confusable, exactly, reduceCtorEq, false_and, iff_false]
  | v6 own =>
    cases otherIp with
    | v4 other =>
      have exactly := prefix_iff_of_shorter ownPort otherPort header.dcid own other
      simp only [socketAddrToVec, Confusable, exactly, reduceCtorEq, false_and, iff_false]
    | v6 other =>
      have exactly := prefix_iff_of_length ownPort otherPort header.dcid own other
      simp only [socketAddrToVec, Confusable, exactly, IpAddr.v6.injEq, not_false_eq_true]

/-- A client at an IPv4 address chooses a connection ID with which its token is also good for
an IPv6 address; an IPv6 client gets a token that is good for an IPv4 address. -/
theorem not_boundToPeer_families :
    let secret : TokenPrefix := .replicate tokenPrefixSize 7
    let small : SocketAddr := ⟨.v4 (.new 32 1 13 184), 443⟩
    let large : SocketAddr :=
      ⟨.v6 ⟨[32, 1, 13, 184, 1, 187, 0, 0, 0, 0, 0, 0, 0, 0, 0, 1], rfl⟩, 443⟩
    ¬BoundToPeer secret small large ⟨[0, 0, 0, 0, 0, 0, 0, 0, 0, 1, 1, 187]⟩ ∧
      ¬BoundToPeer secret large small ⟨[]⟩ := by
  refine ⟨fun bound => ?_, fun bound => ?_⟩
  · have same := bound.accepted.mp (by decide)
    exact absurd same.1 (by decide)
  · have same := bound.accepted.mp (by decide)
    exact absurd same.1 (by decide)

end TrustTunnel.Endpoint.QuicMultiplexer
