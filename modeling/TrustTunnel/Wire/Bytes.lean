import Mathlib.Algebra.Ring.Nat
import Mathlib.Data.List.Induction
import Mathlib.Tactic.Common

/-!
# Byte strings and big-endian numbers

Byte strings are lists of octets. The endpoint and the client exchange numbers
in network byte order; `beBytes` and `beNat` are the two directions, for any
width.
-/

namespace TrustTunnel

open List

abbrev Bytes := List UInt8

namespace Wire

/-- The low `width` bytes of `value`, most significant first. -/
def beBytes : (width value : Nat) → Bytes
  | 0, _ => []
  | width + 1, value => beBytes width (value / 256) ++ [UInt8.ofNat value]

/-- The number a byte string denotes, most significant byte first. -/
def beNat (bytes : Bytes) : Nat := bytes.foldl (fun value byte => value * 256 + byte.toNat) 0

variable (width value : Nat)

@[simp] lemma length_beBytes : (beBytes width value).length = width := by
  induction width generalizing value with
  | zero => rfl
  | succ _ ih => simp [beBytes, ih]

@[simp] lemma beNat_concat (bytes : Bytes) (byte : UInt8) :
    beNat (bytes ++ [byte]) = beNat bytes * 256 + byte.toNat := by
  simp [beNat]

lemma beBytes_succ :
    beBytes (width + 1) value = UInt8.ofNat (value / 256 ^ width) :: beBytes width value := by
  induction width generalizing value with
  | zero => simp [beBytes]
  | succ _ ih => rw [beBytes, ih, beBytes, cons_append, Nat.div_div_eq_div_mul, Nat.pow_succ']

/-- Reading back what was written keeps the value modulo the width. -/
lemma beNat_beBytes : beNat (beBytes width value) = value % 256 ^ width := by
  induction width generalizing value with
  | zero => simp [beBytes, beNat, Nat.mod_one]
  | succ width ih =>
    rw [beBytes, beNat_concat, ih, UInt8.toNat_ofNat']
    have power : 256 ^ (width + 1) = 256 * 256 ^ width := Nat.pow_succ'
    rw [power, Nat.mod_mul]
    omega

lemma beNat_beBytes_of_lt {width value : Nat} (fits : value < 256 ^ width) :
    beNat (beBytes width value) = value := by
  rw [beNat_beBytes, Nat.mod_eq_of_lt fits]

lemma beNat_lt (bytes : Bytes) : beNat bytes < 256 ^ bytes.length := by
  induction bytes using List.reverseRecOn with
  | nil => simp [beNat]
  | append_singleton _ byte =>
    have byteLt : byte.toNat < 256 := byte.toNat_lt
    rw [beNat_concat, length_append, length_singleton]
    omega

/-- Writing back what was read restores the byte string. -/
lemma beBytes_beNat (bytes : Bytes) : beBytes bytes.length (beNat bytes) = bytes := by
  induction bytes using List.reverseRecOn with
  | nil => rfl
  | append_singleton bytes byte ih =>
    have byteLt : byte.toNat < 256 := byte.toNat_lt
    have quotient : (beNat bytes * 256 + byte.toNat) / 256 = beNat bytes := by
      omega
    have low : UInt8.ofNat (beNat bytes * 256 + byte.toNat) = byte := by
      apply UInt8.toNat.inj
      rw [UInt8.toNat_ofNat']
      omega
    rw [length_append, length_singleton, beNat_concat, beBytes, quotient, ih, low]

lemma beBytes_mod : beBytes width (value % 256 ^ width) = beBytes width value := by
  have written := beBytes_beNat (beBytes width value)
  rwa [length_beBytes, beNat_beBytes] at written

/-- What is shown for each of the 256 bytes holds for a byte. -/
lemma forall_byte {property : UInt8 → Prop}
    (holds : ∀ value < 256, property (UInt8.ofNat value)) (byte : UInt8) : property byte := by
  have ofNat := holds _ byte.toNat_lt
  rwa [UInt8.ofNat_toNat] at ofNat

/-! ## Decimal digits -/

def isDigit (byte : UInt8) : Bool := 48 ≤ byte && byte ≤ 57

/-- The number that a string of digits denotes. -/
def decimalValue (digits : Bytes) : Nat :=
  digits.foldl (fun value digit => value * 10 + (digit.toNat - 48)) 0

end Wire

/-- The ways a run of the endpoint or of the client can be aborted by the
checks the code or its language makes. -/
inductive Fault where
  /-- An `assert!` (or C `assert`) failed. -/
  | assertion
  /-- An unsigned subtraction would have wrapped around. -/
  | subtraction
  /-- An unsigned addition would have wrapped around. -/
  | addition
  /-- A slice, split or read reached past the end of a buffer. -/
  | outOfRange
  /-- `unwrap` was called on a missing value. -/
  | unwrap
  deriving DecidableEq, Repr

variable {φ α β : Type}

/-- A sequence succeeds exactly when both of its parts do. -/
lemma bind_eq_ok {first : Except φ α} {second : α → Except φ β} {result : β} :
    first >>= second = .ok result ↔ ∃ value, first = .ok value ∧ second value = .ok result := by
  cases first with
  | error | ok => simp [bind, Except.bind]

lemma ok_bind {value : α} {second : α → Except φ β} : .ok value >>= second = second value := rfl

/-- Checked `usize` subtraction. -/
def usizeSub (left right : Nat) : Except Fault Nat :=
  if right ≤ left then .ok (left - right) else .error .subtraction

lemma usizeSub_of_le {left right : Nat} (le : right ≤ left) :
    usizeSub left right = .ok (left - right) := if_pos le

/-- Checked `usize` addition. -/
def usizeAdd (left right : Nat) : Except Fault Nat :=
  if left + right < 2 ^ 64 then .ok (left + right) else .error .addition

namespace Bytes

/-- `Bytes::split_to`: the first `count` bytes, and what is left behind. -/
def splitTo (bytes : Bytes) (count : Nat) : Except Fault (Bytes × Bytes) :=
  if count ≤ bytes.length then .ok (bytes.take count, bytes.drop count)
  else .error .outOfRange

lemma splitTo_append (front back : Bytes) :
    splitTo (front ++ back) front.length = .ok (front, back) := by
  simp [splitTo]

lemma splitTo_append' {front : Bytes} {count : Nat} (back : Bytes)
    (length : front.length = count) : splitTo (front ++ back) count = .ok (front, back) := by
  rw [← length, splitTo_append]

variable {bytes : Bytes} {text : String} {raw : Bytes}

lemma splitTo_of_le {count : Nat} (le : count ≤ bytes.length) :
    splitTo bytes count = .ok (bytes.take count, bytes.drop count) := if_pos le

lemma exists_append (bytes : Bytes) (count : Nat) (le : count ≤ bytes.length) :
    ∃ front back, bytes = front ++ back ∧ front.length = count ∧
      back.length = bytes.length - count :=
  ⟨bytes.take count, bytes.drop count, (take_append_drop count bytes).symm,
    by rw [length_take]; omega, length_drop⟩

/-- `Buf::advance`. -/
def advance (bytes : Bytes) (count : Nat) : Except Fault Bytes :=
  if count ≤ bytes.length then .ok (bytes.drop count) else .error .outOfRange

/-- `Buf::get_u8`. -/
def getU8 (bytes : Bytes) : Except Fault (UInt8 × Bytes) :=
  match bytes with
  | [] => .error .outOfRange
  | byte :: rest => .ok (byte, rest)

/-- `Buf::get_u16`. -/
def getU16 (bytes : Bytes) : Except Fault (UInt16 × Bytes) := do
  let (raw, rest) ← bytes.splitTo 2
  return (UInt16.ofNat (Wire.beNat raw), rest)

/-- `Buf::get_u32`. -/
def getU32 (bytes : Bytes) : Except Fault (UInt32 × Bytes) := do
  let (raw, rest) ← bytes.splitTo 4
  return (UInt32.ofNat (Wire.beNat raw), rest)

lemma getU16_append (rest : Bytes) (length : raw.length = 2) :
    getU16 (raw ++ rest) = .ok (UInt16.ofNat (Wire.beNat raw), rest) := by
  rw [getU16, splitTo_append' rest length]
  rfl

lemma getU32_append (rest : Bytes) (length : raw.length = 4) :
    getU32 (raw ++ rest) = .ok (UInt32.ofNat (Wire.beNat raw), rest) := by
  rw [getU32, splitTo_append' rest length]
  rfl

/-- `std::str::from_utf8`. -/
def fromUtf8 (bytes : Bytes) : Option String := String.fromUTF8? ⟨bytes.toArray⟩

/-- The UTF-8 bytes of a text. -/
def ofString (text : String) : Bytes := text.toUTF8.data.toList

lemma fromUtf8_ofString (text : String) : fromUtf8 (ofString text) = some text := by
  rw [fromUtf8, ofString, String.fromUTF8?, dif_pos _]
  rfl

lemma fromUtf8_eq_some_iff : fromUtf8 bytes = some text ↔ bytes = ofString text := by
  constructor
  · intro decodes
    rw [fromUtf8, String.fromUTF8?] at decodes
    split at decodes
    · cases decodes
      rfl
    · cases decodes
  · rintro rfl
    exact fromUtf8_ofString text

lemma utf8EncodeChar_ofUInt8 {byte : UInt8} (ascii : byte < 128) :
    String.utf8EncodeChar (.ofUInt8 byte) = [byte] := by
  have lt : byte.toNat < 128 := UInt8.lt_iff_toNat_lt.mp ascii
  have value : (Char.ofUInt8 byte).val.toNat = byte.toNat := UInt8.toNat_toUInt32 byte
  rw [String.utf8EncodeChar, value, if_pos (by omega), UInt8.ofNat_toNat]

lemma utf8Encode_ofUInt8 (ascii : ∀ byte ∈ bytes, byte < 128) :
    (bytes.map Char.ofUInt8).utf8Encode = bytes.toByteArray := by
  rw [List.utf8Encode, toByteArray_inj]
  induction bytes with
  | nil => rfl
  | cons byte _ ih =>
    rw [map_cons, flatMap_cons, ih fun other mem => ascii other (mem_cons_of_mem _ mem),
      utf8EncodeChar_ofUInt8 (ascii byte mem_cons_self), singleton_append]

/-- A text begins with the characters of the ASCII bytes at the front of its bytes. -/
lemma toList_of_fromUtf8 {front rest : Bytes} (ascii : ∀ byte ∈ front, byte < 128)
    (decodes : fromUtf8 (front ++ rest) = some text) :
    ∃ more, text.toList = front.map Char.ofUInt8 ++ more ∧ (rest = [] → more = []) := by
  have bytes : text.toByteArray = (front ++ rest).toByteArray := by
    rw [fromUtf8, String.fromUTF8?] at decodes
    split at decodes
    · cases decodes
      exact ByteArray.ext data_toByteArray.symm
    · cases decodes
  have joined : (front.map Char.ofUInt8).utf8Encode ++ rest.toByteArray =
      text.toList.utf8Encode := by
    rw [String.utf8Encode_toList, bytes, utf8Encode_ofUInt8 ascii, toByteArray_append]
  obtain ⟨more, same⟩ := isPrefix_of_utf8Encode_append_eq_utf8Encode _ joined
  refine ⟨more, same.symm, ?_⟩
  rintro rfl
  rw [← same, utf8Encode_append, ByteArray.append_right_inj] at joined
  exact utf8Encode_eq_empty.mp joined.symm

end Bytes

end TrustTunnel
