import TrustTunnel.Net.Address

/-!
# Reading and writing packets on the client

`Writer` fills a zeroed buffer from the front, `Reader` takes fields off the
front of a view. A write past the end of the buffer is an assertion of the
source, a read past the end returns nothing.
-/

namespace TrustTunnel.Client.WireUtils

open List

def ipv4AddrSize : Nat := 4
def ipv6AddrSize : Nat := 16
def paddedIpSize : Nat := ipv6AddrSize
def ipv46SizeDiff : Nat := ipv6AddrSize - ipv4AddrSize

/-! ## Writer -/

/-- The bytes written so far, and how many zero bytes of the buffer are left
behind them. -/
structure Writer where
  written : Bytes
  room : Nat

namespace Writer

/-- A writer over a zeroed buffer. -/
def new (size : Nat) : Writer where
  written := []
  room := size

/-- What the whole buffer holds. -/
def buffer (self : Writer) : Bytes := self.written ++ List.replicate self.room 0

def putData (self : Writer) (data : Bytes) : Except Fault Writer :=
  if data.length ≤ self.room then
    .ok ⟨self.written ++ data, self.room - data.length⟩
  else .error .assertion

def putU8 (self : Writer) (value : UInt8) : Except Fault Writer := self.putData [value]

def putU16 (self : Writer) (value : UInt16) : Except Fault Writer :=
  self.putData (Wire.beBytes 2 value.toNat)

def putU32 (self : Writer) (value : UInt32) : Except Fault Writer :=
  self.putData (Wire.beBytes 4 value.toNat)

def putIp (self : Writer) : IpAddr → Except Fault Writer
  | .v4 octets => self.putData octets.toList
  | .v6 octets => self.putData octets.toList

def putIpPadded (self : Writer) (ip : IpAddr) : Except Fault Writer := do
  let self ← match ip with
    | .v4 _ => self.putData (List.replicate ipv46SizeDiff 0)
    | .v6 _ => pure self
  self.putIp ip

lemma putData_append (written data : Bytes) (room : Nat) :
    putData ⟨written, data.length + room⟩ data = .ok ⟨written ++ data, room⟩ := by
  rw [putData, if_pos (Nat.le_add_right _ _), Nat.add_sub_cancel_left]

lemma putIpPadded_append (written : Bytes) (ip : IpAddr) (room : Nat) :
    putIpPadded ⟨written, paddedIpSize + room⟩ ip =
      .ok ⟨written ++ ip.toFixedSize.toList, room⟩ := by
  cases ip with
  | v4 octets =>
    have padding := putData_append written (List.replicate ipv46SizeDiff 0)
      (octets.toList.length + room)
    have split : paddedIpSize + room =
        (List.replicate ipv46SizeDiff (0 : UInt8)).length + (octets.toList.length + room) := by
      rw [length_replicate, octets.toList_length, ← add_assoc]
      rfl
    rw [putIpPadded, split]
    simp only [padding, ok_bind, putIp, putData_append, append_assoc]
    rfl
  | v6 octets =>
    have address := putData_append written octets.toList room
    rw [octets.toList_length] at address
    exact address

end Writer

/-! ## Reader -/

inductive AddressFamily where
  | inet
  | inet6

def in6addrLoopback : Bytes := List.replicate 15 0 ++ [1]

namespace Reader

def getU16 (view : Bytes) : Option (UInt16 × Bytes) :=
  if view.length < 2 then none else some (.ofNat (Wire.beNat (view.take 2)), view.drop 2)

def getU32 (view : Bytes) : Option (UInt32 × Bytes) :=
  if view.length < 4 then none else some (.ofNat (Wire.beNat (view.take 4)), view.drop 4)

def getIp (view : Bytes) : AddressFamily → Option (IpAddr × Bytes)
  | .inet =>
    if length : ipv4AddrSize ≤ view.length then
      some (.v4 ⟨view.take ipv4AddrSize, List.length_take_of_le length⟩, view.drop ipv4AddrSize)
    else none
  | .inet6 =>
    if length : ipv6AddrSize ≤ view.length then
      some (.v6 ⟨view.take ipv6AddrSize, List.length_take_of_le length⟩, view.drop ipv6AddrSize)
    else none

def getIpPadded (view : Bytes) : Option (IpAddr × Bytes) :=
  if view.length < paddedIpSize then none
  else
    let isIpv4 := (view.take ipv46SizeDiff).all (· == 0) &&
      view.take ipv6AddrSize != in6addrLoopback
    if isIpv4 then getIp (view.drop ipv46SizeDiff) .inet else getIp view .inet6

lemma getU16_append {raw : Bytes} (rest : Bytes) (length : raw.length = 2) :
    getU16 (raw ++ rest) = some (.ofNat (Wire.beNat raw), rest) := by
  have long : ¬(raw ++ rest).length < 2 := by
    rw [length_append]
    omega
  rw [getU16, if_neg long, ← length, take_left, drop_left]

lemma getU32_append {raw : Bytes} (rest : Bytes) (length : raw.length = 4) :
    getU32 (raw ++ rest) = some (.ofNat (Wire.beNat raw), rest) := by
  have long : ¬(raw ++ rest).length < 4 := by
    rw [length_append]
    omega
  rw [getU32, if_neg long, ← length, take_left, drop_left]

/-- The address the client reads from 16 bytes: like the endpoint, except for the
loopback address. -/
def ipOfPadded (raw : Ipv6Addr) : IpAddr :=
  if raw.toList = in6addrLoopback then .v6 raw else .ofFixedSize raw

lemma getIp_inet {bytes : Bytes} (length : bytes.length = ipv4AddrSize) (rest : Bytes) :
    getIp (bytes ++ rest) .inet = some (.v4 ⟨bytes, length⟩, rest) := by
  have size : ipv4AddrSize ≤ (bytes ++ rest).length := by
    rw [length_append, length]
    exact Nat.le_add_right _ _
  simp only [getIp, dif_pos size, take_left' length, drop_left' length]

lemma getIp_inet6 {bytes : Bytes} (length : bytes.length = ipv6AddrSize) (rest : Bytes) :
    getIp (bytes ++ rest) .inet6 = some (.v6 ⟨bytes, length⟩, rest) := by
  have size : ipv6AddrSize ≤ (bytes ++ rest).length := by
    rw [length_append, length]
    exact Nat.le_add_right _ _
  simp only [getIp, dif_pos size, take_left' length, drop_left' length]

lemma getIpPadded_append (raw : Ipv6Addr) (rest : Bytes) :
    getIpPadded (raw.toList ++ rest) = some (ipOfPadded raw, rest) := by
  obtain ⟨bytes, length⟩ := raw
  change getIpPadded (bytes ++ rest) = some (if bytes = in6addrLoopback then _ else _, rest)
  have long : ¬(bytes ++ rest).length < paddedIpSize := by
    rw [length_append, length]
    exact Nat.not_lt.mpr (Nat.le_add_right 16 _)
  have padding : (bytes ++ rest).take ipv46SizeDiff = bytes.take ipv46SizeDiff :=
    take_append_of_le_length (by rw [length]; decide)
  have dropped : (bytes ++ rest).drop ipv46SizeDiff = bytes.drop ipv46SizeDiff ++ rest :=
    drop_append_of_le_length (by rw [length]; decide)
  have whole : (bytes ++ rest).take ipv6AddrSize = bytes := take_left' length
  rw [getIpPadded, if_neg long, padding, whole, dropped, getIp_inet6 length]
  by_cases loopback : bytes = in6addrLoopback
  · simp [loopback]
  · have short : (bytes.drop ipv46SizeDiff).length = ipv4AddrSize := by
      rw [length_drop, length]
      rfl
    rw [if_neg loopback, getIp_inet short, bne_iff_ne.mpr loopback, Bool.and_true]
    by_cases padded : (bytes.take ipv46SizeDiff).all (· == 0) = true
    · have decoded : IpAddr.ofFixedSize ⟨bytes, length⟩ =
          .v4 ⟨bytes.drop ipv46SizeDiff, short⟩ := if_pos padded
      rw [decoded]
      exact if_pos padded
    · have decoded : IpAddr.ofFixedSize ⟨bytes, length⟩ = .v6 ⟨bytes, length⟩ := if_neg padded
      rw [decoded]
      exact if_neg padded

end Reader

/-- Addresses that the client reads back from their wire form: not 0.0.0.1, which it
takes for the IPv6 loopback address, and no IPv6 address that looks like IPv4. -/
def SafelyPadded : IpAddr → Prop
  | .v4 octets => octets.toList ≠ [0, 0, 0, 1]
  | .v6 octets => ¬octets.ZeroPadded

instance : (ip : IpAddr) → Decidable (SafelyPadded ip)
  | .v4 octets => inferInstanceAs (Decidable (octets.toList ≠ [0, 0, 0, 1]))
  | .v6 octets => inferInstanceAs (Decidable ¬octets.ZeroPadded)

lemma ipOfPadded_toFixedSize {ip : IpAddr} (safe : SafelyPadded ip) :
    Reader.ipOfPadded ip.toFixedSize = ip := by
  cases ip with
  | v4 octets =>
    have notLoopback : ¬(IpAddr.v4 octets).toFixedSize.toList = in6addrLoopback := by
      intro loopback
      have split : List.replicate 12 0 ++ octets.toList =
          List.replicate 12 0 ++ [0, 0, 0, 1] := loopback
      exact safe (append_cancel_left split)
    rw [Reader.ipOfPadded, if_neg notLoopback]
    exact IpAddr.ofFixedSize_toFixedSize trivial
  | v6 octets =>
    have notLoopback : ¬octets.toList = in6addrLoopback := by
      intro loopback
      apply safe
      rw [Ipv6Addr.ZeroPadded, loopback]
      rfl
    change (if octets.toList = in6addrLoopback then _ else _) = _
    rw [if_neg notLoopback]
    exact IpAddr.ofFixedSize_toFixedSize safe

end TrustTunnel.Client.WireUtils
