import TrustTunnel.Client.WireUtils
import TrustTunnel.Endpoint.NetUtils

/-!
# Padded addresses on both sides

Both sides write an address in the same 16 bytes and take bytes that begin with 12 zeros for an
IPv4 address. Only the client makes an exception, for the loopback address of IPv6.
-/

namespace TrustTunnel.Refinement.PaddedAddresses

open Client.WireUtils Endpoint.NetUtils

/-- What the writer of the client makes of an address. -/
def clientEncoded (ip : IpAddr) : Except Fault Bytes :=
  ((Writer.new paddedIpSize).putIpPadded ip).map Writer.buffer

/-- Both decoders read the address from the bytes. -/
def Denotes (bytes : Bytes) (ip : IpAddr) : Prop :=
  Reader.getIpPadded bytes = some (ip, []) ∧ getFixedSizeIp bytes = .ok (ip, [])

/-- Both decoders read back what either encoder writes. -/
def RoundTrips (ip : IpAddr) : Prop :=
  (∃ encoded, clientEncoded ip = .ok encoded ∧ Denotes encoded ip) ∧ Denotes (putFixedSizeIp ip) ip

/-- Both decoders read the same address from the 16 bytes. -/
def Agree (raw : Ipv6Addr) : Prop := ∃ ip, Denotes raw.toList ip

variable (ip : IpAddr)

lemma clientEncoded_eq : clientEncoded ip = .ok ip.toFixedSize.toList := by
  have written := Writer.putIpPadded_append [] ip 0
  change Except.map Writer.buffer (Writer.putIpPadded ⟨[], paddedIpSize + 0⟩ ip) = _
  rw [written]
  simp [Except.map, Writer.buffer]

lemma denotes_iff (raw : Ipv6Addr) (ip : IpAddr) :
    Denotes raw.toList ip ↔ Reader.ipOfPadded raw = ip ∧ IpAddr.ofFixedSize raw = ip := by
  have client := Reader.getIpPadded_append raw []
  have endpoint := getFixedSizeIp_append raw []
  rw [List.append_nil] at client endpoint
  simp [Denotes, client, endpoint]

lemma denotes_toFixedSize_iff : Denotes ip.toFixedSize.toList ip ↔ SafelyPadded ip := by
  rw [denotes_iff]
  constructor
  · rintro ⟨client, endpoint⟩
    cases ip with
    | v4 octets =>
      intro same
      have loopback : (IpAddr.v4 octets).toFixedSize.toList = in6addrLoopback := by
        change List.replicate 12 0 ++ octets.toList = _
        rw [same]
        rfl
      rw [Reader.ipOfPadded, if_pos loopback] at client
      cases client
    | v6 octets =>
      intro padded
      rw [IpAddr.ofFixedSize, if_pos (show (IpAddr.v6 octets).toFixedSize.ZeroPadded from padded)]
        at endpoint
      cases endpoint
  · intro safe
    have unambiguous : ip.Unambiguous := by
      cases ip with
      | v4 => trivial
      | v6 => exact safe
    exact ⟨ipOfPadded_toFixedSize safe, IpAddr.ofFixedSize_toFixedSize unambiguous⟩

lemma roundTrips_iff : RoundTrips ip ↔ SafelyPadded ip := by
  rw [RoundTrips, putFixedSizeIp_eq, clientEncoded_eq, ← denotes_toFixedSize_iff]
  constructor
  · rintro ⟨-, denotes⟩
    exact denotes
  · intro denotes
    exact ⟨⟨_, rfl, denotes⟩, denotes⟩

lemma agree_iff (raw : Ipv6Addr) : Agree raw ↔ raw.toList ≠ in6addrLoopback := by
  simp only [Agree, denotes_iff]
  constructor
  · rintro ⟨ip, client, endpoint⟩ loopback
    have padded : raw.ZeroPadded := by
      rw [Ipv6Addr.ZeroPadded, loopback]
      rfl
    rw [Reader.ipOfPadded, if_pos loopback] at client
    rw [IpAddr.ofFixedSize, if_pos padded, ← client] at endpoint
    cases endpoint
  · intro other
    exact ⟨_, if_neg other, rfl⟩

/-- An address survives either encoder and decoder, and 16 bytes mean the same on both sides,
if and only if the address is neither 0.0.0.1 nor an IPv6 address that begins with 12 zero bytes,
and the bytes are not the loopback address of IPv6. -/
theorem roundTrips_and_agree_iff (ip : IpAddr) (raw : Ipv6Addr) :
    RoundTrips ip ∧ Agree raw ↔ SafelyPadded ip ∧ raw.toList ≠ in6addrLoopback :=
  and_congr (roundTrips_iff ip) (agree_iff raw)

/-- The IPv6 loopback address. -/
def loopback : Ipv6Addr := ⟨in6addrLoopback, rfl⟩

/-- The endpoint reads the loopback address of IPv6 as 0.0.0.1, which the client in turn reads
as the loopback address. -/
theorem not_roundTrips_loopback :
    ¬RoundTrips (.v6 loopback) ∧ ¬RoundTrips (.v4 (.new 0 0 0 1)) ∧ ¬Agree loopback ∧
      Reader.getIpPadded loopback.toList = some (.v6 loopback, []) ∧
      getFixedSizeIp loopback.toList = .ok (.v4 (.new 0 0 0 1), []) := by
  refine ⟨?_, ?_, ?_, rfl, rfl⟩
  · exact fun trips => (roundTrips_iff _).mp trips rfl
  · exact fun trips => (roundTrips_iff _).mp trips rfl
  · exact fun agree => (agree_iff _).mp agree rfl

end TrustTunnel.Refinement.PaddedAddresses
