import Mathlib.Data.Vector.Basic
import TrustTunnel.Wire.Bytes

/-!
# IP addresses and their fixed-size wire form

On the datagram streams an address always takes 16 bytes: an IPv4 address is
written after 12 zero bytes, so an IPv6 address that itself starts with 12 zero
bytes cannot be told from it.
-/

namespace TrustTunnel

abbrev Ipv4Addr := List.Vector UInt8 4

abbrev Ipv6Addr := List.Vector UInt8 16

/-- `Ipv4Addr::new`. -/
def Ipv4Addr.new (a b c d : UInt8) : Ipv4Addr := ⟨[a, b, c, d], rfl⟩

inductive IpAddr where
  | v4 (octets : Ipv4Addr)
  | v6 (octets : Ipv6Addr)
  deriving DecidableEq

structure SocketAddr where
  ip : IpAddr
  port : UInt16
  deriving DecidableEq

/-- The first 12 bytes of a 16-byte address are zero. -/
def Ipv6Addr.ZeroPadded (octets : Ipv6Addr) : Prop := (octets.toList.take 12).all (· == 0) = true

instance (octets : Ipv6Addr) : Decidable octets.ZeroPadded := inferInstanceAs (Decidable (_ = true))

namespace IpAddr

def isIpv6 : IpAddr → Bool
  | .v4 _ => false
  | .v6 _ => true

/-- The address that 16 wire bytes denote. -/
def ofFixedSize (raw : Ipv6Addr) : IpAddr :=
  if raw.ZeroPadded then .v4 ⟨raw.toList.drop 12, by simp⟩ else .v6 raw

/-- The 16 wire bytes of an address. -/
def toFixedSize : IpAddr → Ipv6Addr
  | .v4 octets => ⟨List.replicate 12 0 ++ octets.toList, by simp⟩
  | .v6 octets => octets

/-- The wire form denotes the address unambiguously. -/
def Unambiguous : IpAddr → Prop
  | .v4 _ => True
  | .v6 octets => ¬octets.ZeroPadded

instance : (ip : IpAddr) → Decidable ip.Unambiguous
  | .v4 _ => .isTrue trivial
  | .v6 octets => inferInstanceAs (Decidable ¬octets.ZeroPadded)

lemma ofFixedSize_toFixedSize {ip : IpAddr} (unambiguous : ip.Unambiguous) :
    ofFixedSize ip.toFixedSize = ip := by
  cases ip with
  | v4 => rfl
  | v6 => exact if_neg unambiguous

end IpAddr

namespace SocketAddr

/-- The 18 wire bytes of an address and port. -/
def toFixedSize (addr : SocketAddr) : Bytes :=
  addr.ip.toFixedSize.toList ++ Wire.beBytes 2 addr.port.toNat

@[simp] lemma length_toFixedSize (addr : SocketAddr) : addr.toFixedSize.length = 18 := by
  simp [toFixedSize]

end SocketAddr

/-- A port survives its two wire bytes. -/
@[simp] lemma port_of_wire (port : UInt16) :
    UInt16.ofNat (Wire.beNat (Wire.beBytes 2 port.toNat)) = port := by
  apply UInt16.toNat.inj
  rw [Wire.beNat_beBytes, UInt16.toNat_ofNat']
  have bound := port.toNat_lt
  omega

end TrustTunnel
