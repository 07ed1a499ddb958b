import TrustTunnel.Wire.Bytes

/-!
# Base encodings of RFC 4648

Base 16 in upper or lower case, and base 64 with the URL and filename safe alphabet
and without padding: three bytes are written as four digits, one or two bytes at the
end as two or three digits with zero bits behind them. Base 64 with the standard
alphabet is padded.
-/

namespace TrustTunnel.Rfc4648

namespace Base16

/-- The value of a digit in upper or lower case. -/
def value (digit : Char) : Option Nat :=
  match "0123456789abcdef".toList.idxOf? digit with
  | some number => some number
  | none => ("0123456789ABCDEF".toList.idxOf? digit)

def decode : List Char → Option Bytes
  | [] => some []
  | [_] => none
  | high :: low :: rest => do
      let high ← value high
      let low ← value low
      let rest ← decode rest
      some (.ofNat (high * 16 + low) :: rest)

lemma value_ne_none {digits : List Char} {bytes : Bytes} (decodes : decode digits = some bytes) :
    ∀ digit ∈ digits, value digit ≠ none := by
  induction digits using decode.induct generalizing bytes with
  | case1 =>
    intro digit mem
    cases mem
  | case2 => cases decodes
  | case3 _ _ _ ih =>
    simp only [decode, Option.bind_eq_bind, Option.bind_eq_some_iff] at decodes
    obtain ⟨highValue, highDigit, lowValue, lowDigit, bytes, restDigits, -⟩ := decodes
    rw [List.forall_mem_cons, List.forall_mem_cons, highDigit, lowDigit]
    exact ⟨Option.some_ne_none _, Option.some_ne_none _, ih restDigits⟩

end Base16

namespace Base64Url

def alphabet : List Char :=
  "ABCDEFGHIJKLMNOPQRSTUVWXYZabcdefghijklmnopqrstuvwxyz0123456789-_".toList

/-- The digit of a six-bit value. -/
def digit (value : Nat) : Char := alphabet.getD value 'A'

/-- The value of a digit. -/
def value (digit : Char) : Option Nat := alphabet.idxOf? digit

def encode : Bytes → List Char
  | [] => []
  | [a] => [digit (a.toNat / 4), digit (a.toNat % 4 * 16)]
  | [a, b] =>
    [digit (a.toNat / 4), digit (a.toNat % 4 * 16 + b.toNat / 16), digit (b.toNat % 16 * 4)]
  | a :: b :: c :: rest =>
    digit (a.toNat / 4) :: digit (a.toNat % 4 * 16 + b.toNat / 16) ::
      digit (b.toNat % 16 * 4 + c.toNat / 64) :: digit (c.toNat % 64) :: encode rest

def decode : List Char → Option Bytes
  | [] => some []
  | [_] => none
  | [p, q] => do
      let p ← value p
      let q ← value q
      if q % 16 = 0 then some [.ofNat (p * 4 + q / 16)] else none
  | [p, q, r] => do
      let p ← value p
      let q ← value q
      let r ← value r
      if r % 4 = 0 then some [.ofNat (p * 4 + q / 16), .ofNat (q % 16 * 16 + r / 4)] else none
  | p :: q :: r :: s :: rest => do
      let p ← value p
      let q ← value q
      let r ← value r
      let s ← value s
      let rest ← decode rest
      some (.ofNat (p * 4 + q / 16) :: .ofNat (q % 16 * 16 + r / 4) ::
        .ofNat (r % 4 * 64 + s) :: rest)

variable {number : Nat}

lemma value_digit (small : number < 64) : value (digit number) = some number := by
  have every : ∀ number : Fin 64, value (digit number.val) = some number.val := by
    decide +kernel
  exact every ⟨number, small⟩

lemma ofNat_eq (byte : UInt8) (same : number = byte.toNat) : UInt8.ofNat number = byte := by
  rw [same]
  exact UInt8.ofNat_toNat

lemma decode_encode (bytes : Bytes) : decode (encode bytes) = some bytes := by
  induction bytes using encode.induct with
  | case1 => rfl
  | case2 a =>
    have small := a.toNat_lt
    simp only [encode, decode, value_digit (show a.toNat / 4 < 64 by omega),
      value_digit (show a.toNat % 4 * 16 < 64 by omega), Option.bind_eq_bind, Option.bind_some]
    rw [if_pos (by omega), ofNat_eq a (by omega)]
  | case3 a b =>
    have smallA := a.toNat_lt
    have smallB := b.toNat_lt
    simp only [encode, decode, value_digit (show a.toNat / 4 < 64 by omega),
      value_digit (show a.toNat % 4 * 16 + b.toNat / 16 < 64 by omega),
      value_digit (show b.toNat % 16 * 4 < 64 by omega), Option.bind_eq_bind, Option.bind_some]
    rw [if_pos (by omega), ofNat_eq a (by omega), ofNat_eq b (by omega)]
  | case4 a b c _ ih =>
    have smallA := a.toNat_lt
    have smallB := b.toNat_lt
    have smallC := c.toNat_lt
    simp only [encode, decode, value_digit (show a.toNat / 4 < 64 by omega),
      value_digit (show a.toNat % 4 * 16 + b.toNat / 16 < 64 by omega),
      value_digit (show b.toNat % 16 * 4 + c.toNat / 64 < 64 by omega),
      value_digit (show c.toNat % 64 < 64 by omega), ih, Option.bind_eq_bind, Option.bind_some]
    rw [ofNat_eq a (by omega), ofNat_eq b (by omega), ofNat_eq c (by omega)]

end Base64Url

namespace Base64

/-- The digit of the standard alphabet, which differs in the last two digits. -/
def standard (digit : Char) : Char :=
  if digit = '-' then '+' else if digit = '_' then '/' else digit

/-- The digits are padded to groups of four. -/
def encode (bytes : Bytes) : List Char :=
  let digits := (Base64Url.encode bytes).map standard
  digits ++ List.replicate ((4 - digits.length % 4) % 4) '='

end Base64

end TrustTunnel.Rfc4648
