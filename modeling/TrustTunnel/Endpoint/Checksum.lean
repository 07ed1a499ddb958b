import TrustTunnel.Endpoint.IcmpUtils
import TrustTunnel.Wire.OnesComplement

/-!
# The checksum of ICMP packets

`rfc1071_checksum` adds up the words of a packet in 32 bits and folds the carries once.
The folded sum may have a carry again, which is lost.
-/

namespace TrustTunnel.Endpoint

open Wire

namespace NetUtils

/-- Checked `u32` addition. -/
def u32Add (left right : Nat) : Except Fault Nat :=
  if left + right < 2 ^ 32 then .ok (left + right) else .error .addition

/-- The loop of `rfc1071_checksum`. -/
def sumWords (sum : Nat) : Bytes → Except Fault Nat
  | [] => .ok sum
  | [high] => u32Add sum (high.toNat * 256)
  | high :: low :: rest => do
    let sum ← u32Add sum (high.toNat * 256)
    let sum ← u32Add sum low.toNat
    sumWords sum rest

def rfc1071Checksum (bytes : Bytes) : Except Fault UInt16 := do
  let sum ← sumWords 0 bytes
  let folded ← u32Add (sum / 2 ^ 16) sum
  return ~~~UInt16.ofNat folded

/-- Folding the sum of the words once leaves no carry. -/
def FoldsOnce (bytes : Bytes) : Prop :=
  (words bytes).sum / 2 ^ 16 + (words bytes).sum % 2 ^ 16 < 2 ^ 16

lemma u32Add_bind {left middle right : Nat} {next : Nat → Except Fault Nat}
    (adds : ∀ sum < 2 ^ 32, next sum = u32Add sum right) :
    u32Add left middle >>= next = u32Add left (middle + right) := by
  by_cases fits : left + middle < 2 ^ 32
  · have added := adds _ fits
    rw [u32Add, add_assoc] at added
    rw [u32Add, if_pos fits]
    exact added
  · rw [u32Add, if_neg fits, u32Add, if_neg (by omega)]
    rfl

lemma sumWords_eq {sum : Nat} (fits : sum < 2 ^ 32) (bytes : Bytes) :
    sumWords sum bytes = u32Add sum (words bytes).sum := by
  fun_induction sumWords sum bytes with
  | case1 => rw [words, List.sum_nil, u32Add, add_zero, if_pos fits]
  | case2 => rw [words, List.sum_singleton]
  | case3 _ _ _ _ ih =>
    rw [words, List.sum_cons, add_assoc]
    exact u32Add_bind fun _ _ => u32Add_bind ih

/-- An overflow while the words are added is one of the folded sum, too. -/
lemma rfc1071Checksum_eq (bytes : Bytes) :
    rfc1071Checksum bytes =
      if (words bytes).sum / 2 ^ 16 + (words bytes).sum < 2 ^ 32 then
        .ok (~~~UInt16.ofNat ((words bytes).sum / 2 ^ 16 + (words bytes).sum))
      else .error .addition := by
  rw [rfc1071Checksum, sumWords_eq (by decide), u32Add, zero_add]
  generalize (words bytes).sum = sum
  by_cases fits : sum < 2 ^ 32
  · simp only [if_pos fits, bind, Except.bind, u32Add]
    by_cases folds : sum / 2 ^ 16 + sum < 2 ^ 32
    · simp only [if_pos folds]
      rfl
    · simp only [if_neg folds]
  · rw [if_neg fits, if_neg (by omega)]
    rfl

lemma checksum_ok_iff {bytes : Bytes} :
    rfc1071Checksum bytes = .ok (~~~UInt16.ofNat (onesSum bytes)) ↔ FoldsOnce bytes := by
  rw [rfc1071Checksum_eq, onesSum_eq, FoldsOnce]
  split
  · rw [carried_eq (by omega), Except.ok.injEq, UInt16.not_inj, ← UInt16.toNat_inj, UInt16.toNat_ofNat',
      UInt16.toNat_ofNat']
    split_ifs <;> omega
  · simp
    omega

end NetUtils

namespace IcmpUtils.Echo

open NetUtils

/-- The packet with a checksum. -/
def packet (self : Echo) (typeId : UInt8) (checksum : UInt16) : Bytes :=
  typeId :: 0 :: (beBytes 2 checksum.toNat ++ (beBytes 2 self.identifier.toNat ++
    (beBytes 2 self.sequenceNumber.toNat ++ self.data)))

def serialize (self : Echo) (typeId : UInt8) : Except Fault Bytes := do
  let checksum ← rfc1071Checksum (self.packet typeId 0)
  return self.packet typeId checksum

lemma words_beBytes (value : UInt16) (rest : Bytes) :
    words (beBytes 2 value.toNat ++ rest) = value.toNat :: words rest := by
  have bound := value.toNat_lt
  simp [beBytes, words]
  omega

lemma sum_words_packet (self : Echo) (typeId : UInt8) (checksum : UInt16) :
    (words (self.packet typeId checksum)).sum =
      (words (self.packet typeId 0)).sum + checksum.toNat := by
  simp only [packet, words, words_beBytes, List.sum_cons]
  simp
  omega

/-- A checksum is the complement of the one's complement sum, and gives a packet that adds up
to 0xffff, exactly if folding the sum of the words once leaves no carry. -/
theorem checksum_iff (bytes : Bytes) (echo : Echo) (typeId : UInt8) :
    (rfc1071Checksum bytes = .ok (~~~UInt16.ofNat (onesSum bytes)) ↔ FoldsOnce bytes) ∧
      ((∃ packet, echo.serialize typeId = .ok packet ∧ onesSum packet = 0xffff) ↔
        FoldsOnce (echo.packet typeId 0)) := by
  refine ⟨checksum_ok_iff, ?_⟩
  rw [serialize, rfc1071Checksum_eq, FoldsOnce]
  have packets := echo.sum_words_packet typeId
  generalize (words _).sum = sum at packets
  by_cases fits : sum / 2 ^ 16 + sum < 2 ^ 32
  · simp only [if_pos fits, ok_bind, pure, Except.pure, Except.ok.injEq, exists_eq_left',
      onesSum_eq, packets, UInt16.toNat_not, UInt16.toNat_ofNat']
    by_cases folds : sum / 2 ^ 16 + sum % 2 ^ 16 < 2 ^ 16
    · have total : sum + (UInt16.size - 1 - (sum / 2 ^ 16 + sum) % 2 ^ 16) =
          65535 * (sum / 2 ^ 16) + 65535 := by
        rw [show UInt16.size = 65536 from rfl]
        omega
      rw [total, carried, if_neg (by omega)]
      omega
    · have total : sum + (UInt16.size - 1 - (sum / 2 ^ 16 + sum) % 2 ^ 16) =
          65535 * (sum / 2 ^ 16 + 2) + 1 := by
        rw [show UInt16.size = 65536 from rfl]
        omega
      rw [total, carried, if_neg (by omega)]
      omega
  · rw [if_neg fits]
    refine iff_of_false ?_ (by omega)
    rintro ⟨_, made, -⟩
    cases made

/-- The sum of the words is 0x1ffff, and folded once it is 0x10000. -/
theorem checksum_carry :
    rfc1071Checksum [8, 0, 0, 0, 0xff, 0xff, 0xf8, 0] ≠
        .ok (~~~UInt16.ofNat (onesSum [8, 0, 0, 0, 0xff, 0xff, 0xf8, 0])) ∧
      (Echo.mk 0 0xffff 0xf800 []).serialize 8 = .ok [8, 0, 0xff, 0xff, 0xff, 0xff, 0xf8, 0] ∧
      onesSum [8, 0, 0xff, 0xff, 0xff, 0xff, 0xf8, 0] = 1 := by
  decide +kernel

end IcmpUtils.Echo

end TrustTunnel.Endpoint
