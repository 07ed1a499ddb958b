import TrustTunnel.Net.Address

/-!
# Globally routable addresses

The address classes that decide whether the endpoint may connect to a peer when
connections to private networks are not allowed.
-/

namespace TrustTunnel

namespace Ipv4Addr

def isPrivate (ip : Ipv4Addr) : Bool :=
  ip.get 0 == 10 || (ip.get 0 == 172 && ip.get 1 &&& 0xf0 == 16) ||
    (ip.get 0 == 192 && ip.get 1 == 168)

def isLoopback (ip : Ipv4Addr) : Bool := ip.get 0 == 127

def isLinkLocal (ip : Ipv4Addr) : Bool := ip.get 0 == 169 && ip.get 1 == 254

def isBroadcast (ip : Ipv4Addr) : Bool := ip == new 255 255 255 255

def isDocumentation (ip : Ipv4Addr) : Bool :=
  (ip.get 0 == 192 && ip.get 1 == 0 && ip.get 2 == 2) ||
    (ip.get 0 == 198 && ip.get 1 == 51 && ip.get 2 == 100) ||
    (ip.get 0 == 203 && ip.get 1 == 0 && ip.get 2 == 113)

end Ipv4Addr

namespace Ipv6Addr

/-- The 16-bit segment of an address, in host order. -/
def segment (ip : Ipv6Addr) (index : Fin 8) : UInt16 :=
  .ofNat ((ip.toList.getD (2 * index) 0).toNat * 256 + (ip.toList.getD (2 * index + 1) 0).toNat)

def isMulticast (ip : Ipv6Addr) : Bool := ip.get 0 == 0xff

def isLoopback (ip : Ipv6Addr) : Bool := ip.toList == List.replicate 15 0 ++ [1]

def isUnspecified (ip : Ipv6Addr) : Bool := ip.toList == List.replicate 16 0

end Ipv6Addr

namespace Endpoint.NetUtils

def isGlobalIpv4 (ip : Ipv4Addr) : Bool :=
  if ip = .new 192 0 0 9 ∨ ip = .new 192 0 0 10 then true
  else
    !ip.isPrivate && !ip.isLoopback && !ip.isLinkLocal && !ip.isBroadcast && !ip.isDocumentation &&
      !(ip.get 0 == 100 && ip.get 1 &&& 0b11000000 == 0b01000000) &&
      !(ip.get 0 == 192 && ip.get 1 == 0 && ip.get 2 == 0) &&
      !(ip.get 0 &&& 240 == 240 && !ip.isBroadcast) &&
      !(ip.get 0 == 198 && ip.get 1 &&& 0xfe == 18) && ip.get 0 != 0

def isUnicastGlobalIpv6 (ip : Ipv6Addr) : Bool :=
  !(ip.isMulticast || ip.isLoopback || ip.segment 0 &&& 0xffc0 == 0xfe80 ||
    ip.segment 0 &&& 0xfe00 == 0xfc00 || ip.isUnspecified ||
    (ip.segment 0 == 0x2001 && ip.segment 1 == 0xdb8))

def isGlobalIpv6 (ip : Ipv6Addr) : Bool :=
  if ip.isMulticast then ip.segment 0 &&& 0x000f == 0x0e else isUnicastGlobalIpv6 ip

/-- The IPv4 address inside an IPv4-mapped or IPv4-compatible address. -/
def extractIpv4FromIpv6 (ip : Ipv6Addr) : Option Ipv4Addr :=
  let isMapped := ip.segment 0 == 0 && ip.segment 1 == 0 && ip.segment 2 == 0 &&
    ip.segment 3 == 0 && ip.segment 4 == 0 && ip.segment 5 == 0xffff
  let isCompat := ip.segment 0 == 0 && ip.segment 1 == 0 && ip.segment 2 == 0 &&
    ip.segment 3 == 0 && ip.segment 4 == 0 && ip.segment 5 == 0 &&
    (ip.segment 6 != 0 || ip.segment 7 > 1)
  if isMapped || isCompat then
    some (.new (ip.segment 6 >>> 8).toUInt8 (ip.segment 6).toUInt8
      (ip.segment 7 >>> 8).toUInt8 (ip.segment 7).toUInt8)
  else none

def isGlobalIp : IpAddr → Bool
  | .v4 ip => isGlobalIpv4 ip
  | .v6 ip =>
    match extractIpv4FromIpv6 ip with
    | some ip => isGlobalIpv4 ip
    | none => isGlobalIpv6 ip

/-!
## Sizes and address encoding shared by the endpoint's codecs
-/

def minIpv4HeaderSize : Nat := 20
def maxIpPacketSize : Nat := 2 ^ 16
def udpHeaderSize : Nat := 8
def maxUdpPayloadSize : Nat := maxIpPacketSize - minIpv4HeaderSize - udpHeaderSize

def ipv4WireLength : Nat := 4
def ipv6WireLength : Nat := 16
def fixedLengthIpWireLength : Nat := ipv6WireLength
def ipv4PaddingWireLength : Nat := fixedLengthIpWireLength - ipv4WireLength

/-- `<[u8; N]>::try_from(slice).unwrap()`. -/
def tryInto (size : Nat) (bytes : Bytes) : Except Fault (List.Vector UInt8 size) :=
  if length : bytes.length = size then .ok ⟨bytes, length⟩ else .error .unwrap

lemma tryInto_of_length {size : Nat} {bytes : Bytes} (length : bytes.length = size) :
    tryInto size bytes = .ok ⟨bytes, length⟩ := dif_pos length

def getFixedSizeIp (bytes : Bytes) : Except Fault (IpAddr × Bytes) := do
  let (ip, rest) ← bytes.splitTo ipv6WireLength
  if (ip.take ipv4PaddingWireLength).all (· == 0) then
    let address ← tryInto ipv4WireLength (ip.drop ipv4PaddingWireLength)
    return (.v4 address, rest)
  else
    let address ← tryInto fixedLengthIpWireLength ip
    return (.v6 address, rest)

/-- The bytes `put_fixed_size_ip` appends to its buffer. -/
def putFixedSizeIp : IpAddr → Bytes
  | .v4 octets => List.replicate ipv4PaddingWireLength 0 ++ octets.toList
  | .v6 octets => octets.toList

lemma putFixedSizeIp_eq (ip : IpAddr) : putFixedSizeIp ip = ip.toFixedSize.toList := by
  cases ip <;> rfl

/-- The endpoint reads 16 bytes, whatever follows them. -/
lemma getFixedSizeIp_append (raw : Ipv6Addr) (rest : Bytes) :
    getFixedSizeIp (raw.toList ++ rest) = .ok (IpAddr.ofFixedSize raw, rest) := by
  obtain ⟨bytes, length⟩ := raw
  have taken : Bytes.splitTo (bytes ++ rest) ipv6WireLength = .ok (bytes, rest) :=
    Bytes.splitTo_append' rest length
  change getFixedSizeIp (bytes ++ rest) = _
  rw [getFixedSizeIp, taken]
  by_cases padded : (bytes.take ipv4PaddingWireLength).all (· == 0) = true
  · have short : (bytes.drop ipv4PaddingWireLength).length = ipv4WireLength := by
      rw [List.length_drop, length]
      rfl
    have decoded : IpAddr.ofFixedSize ⟨bytes, length⟩ =
        .v4 ⟨bytes.drop ipv4PaddingWireLength, short⟩ := if_pos padded
    rw [decoded]
    simp only [ok_bind, if_pos padded, tryInto_of_length short]
    rfl
  · have whole : tryInto fixedLengthIpWireLength bytes = .ok ⟨bytes, length⟩ :=
      tryInto_of_length length
    have decoded : IpAddr.ofFixedSize ⟨bytes, length⟩ = .v6 ⟨bytes, length⟩ := if_neg padded
    rw [decoded]
    simp only [ok_bind, if_neg padded, whole]
    rfl

/-!
## Headers of the packets that ICMP errors quote

The endpoint skips the IP header of a quoted packet to reach its ICMP message. For
IPv6 the header is followed by any number of extension headers.
-/

def minIpv6HeaderSize : Nat := 40

def ipprotoHopopts : UInt8 := 0
def ipprotoIcmp : UInt8 := 1
def ipprotoRouting : UInt8 := 43
def ipprotoFragment : UInt8 := 44
def ipprotoIcmpv6 : UInt8 := 58
def ipprotoDstopts : UInt8 := 60

/-- The protocol of the payload and the payload, unless the packet is invalid. -/
def skipIpv4Header (packet : Bytes) : Except Fault (Option (UInt8 × Bytes)) := do
  if packet.length < minIpv4HeaderSize then
    return none
  let (x, packet) ← packet.getU8
  let headerLength := ((x &&& 0x0f) * 4).toNat
  if headerLength < 20 ∨ packet.length + 1 < headerLength then
    return none
  let packet ← packet.advance (1 + 2 + 2 + 2 + 1)
  let (nextProtocol, packet) ← packet.getU8
  let packet ← packet.advance (2 + 4 + 4 + (headerLength - minIpv4HeaderSize))
  return some (nextProtocol, packet)

def ipv6FragmentExtLength : Nat := 8

/-- The loop of `skip_ipv6_header` over the extension headers. -/
def skipExtensionHeaders (nextProtocol : UInt8) (packet : Bytes) :
    Except Fault (Option (UInt8 × Bytes)) :=
  if nextProtocol = ipprotoHopopts ∨ nextProtocol = ipprotoRouting ∨
      nextProtocol = ipprotoDstopts then
    match packet with
    | next :: headerExtLength :: rest =>
      -- `advance` panics when the header is longer than what is left of the packet
      if headerExtLength.toNat ≤ rest.length then
        skipExtensionHeaders next (rest.drop headerExtLength.toNat)
      else .error .outOfRange
    | _ => .ok none
  else if nextProtocol = ipprotoFragment then
    match packet with
    | next :: rest =>
      if ipv6FragmentExtLength - 1 ≤ rest.length then
        skipExtensionHeaders next (rest.drop (ipv6FragmentExtLength - 1))
      else .ok none
    | [] => .ok none
  else .ok (some (nextProtocol, packet))
termination_by packet.length
decreasing_by
  all_goals
    rw [List.length_drop]
    simp only [List.length_cons]
    omega

/-- The protocol of the payload and the payload, unless the packet is invalid. -/
def skipIpv6Header (packet : Bytes) : Except Fault (Option (UInt8 × Bytes)) := do
  if packet.length < minIpv6HeaderSize then
    return none
  let packet ← packet.advance (4 + 2)
  let (nextProtocol, packet) ← packet.getU8
  let packet ← packet.advance (1 + 16 + 16)
  skipExtensionHeaders nextProtocol packet

end Endpoint.NetUtils

end TrustTunnel
