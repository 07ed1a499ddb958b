import TrustTunnel.Wire.Bytes

/-!
# Variable-length integers of RFC 9000

The two most significant bits of the first byte tell how many bytes the number
takes: one, two, four or eight. The other bits hold the number, so that a number
may have more than one form; the shortest one is minimal.
-/

namespace TrustTunnel.Rfc9000.Varint

/-- There is a form, so that the forms have numerals. -/
local instance formNeZero : NeZero 4 := ⟨Nat.succ_ne_zero 3⟩

/-- The number of bytes of a form. -/
def width (form : Fin 4) : Nat := 2 ^ form.val

/-- The numbers below this one have the form. -/
def limit (form : Fin 4) : Nat := 2 ^ (8 * width form - 2)

/-- The bytes of a number in a form. -/
def written (form : Fin 4) (value : Nat) : Bytes :=
  Wire.beBytes (width form) (limit form * form.val + value)

/-- The bytes are a form of the number. -/
def Encodes (bytes : Bytes) (value : Nat) : Prop :=
  ∃ form, value < limit form ∧ bytes = written form value

/-- The shortest form of a number. -/
def minimal (value : Nat) : Bytes :=
  if value < limit 0 then written 0 value
  else if value < limit 1 then written 1 value
  else if value < limit 2 then written 2 value
  else written 3 value

variable {value : Nat}

lemma encodes_minimal (fits : value < 2 ^ 62) : Encodes (minimal value) value := by
  rw [minimal]
  split
  · exact ⟨0, ‹_›, rfl⟩
  · split
    · exact ⟨1, ‹_›, rfl⟩
    · split
      · exact ⟨2, ‹_›, rfl⟩
      · exact ⟨3, fits, rfl⟩

lemma written_zero (value : Nat) : written 0 value = [UInt8.ofNat value] := by
  simp [written, width, Wire.beBytes]

lemma encodes_short (small : value < 64) : Encodes [UInt8.ofNat value] value :=
  ⟨0, small, (written_zero value).symm⟩

lemma length_written (form : Fin 4) (value : Nat) :
    (written form value).length = width form := Wire.length_beBytes _ _

lemma pow_width : ∀ form : Fin 4, 256 ^ width form = limit form * 4 := by
  decide

variable {form : Fin 4} {low : Nat}

/-- A form of a number below its limit fits its bytes. -/
lemma lt_of_lt_limit (below : value < limit form) :
    limit form * form.val + value < 256 ^ width form := by
  rw [pow_width]
  calc limit form * form.val + value < limit form * form.val + limit form := by omega
    _ = limit form * (form.val + 1) := (Nat.mul_succ _ _).symm
    _ ≤ limit form * 4 := Nat.mul_le_mul_left _ form.isLt

lemma width_eq : ∀ form : Fin 4, width form = width form - 1 + 1 := by
  decide

lemma width_ne_one : ∀ form : Fin 4, form ≠ 0 → width form ≠ 1 := by
  decide

lemma limit_eq : ∀ form : Fin 4, limit form = 256 ^ (width form - 1) * 64 := by
  decide

/-- The form is in the two most significant bits of the first byte, and the number in the
others. -/
lemma written_eq_cons (below : value < limit form) :
    ∃ low < 64, ∃ tail, written form value = UInt8.ofNat (64 * form.val + low) :: tail ∧
      Wire.beNat (UInt8.ofNat low :: tail) = value := by
  have positive : 0 < 256 ^ (width form - 1) := Nat.pow_pos (by decide)
  have fits : value < 256 ^ width form :=
    lt_of_le_of_lt (Nat.le_add_left _ _) (lt_of_lt_limit below)
  rw [limit_eq] at below
  refine ⟨value / 256 ^ (width form - 1), Nat.div_lt_of_lt_mul below,
    Wire.beBytes (width form - 1) value, ?_, ?_⟩
  · have high : limit form * form.val + value =
        256 ^ (width form - 1) * (64 * form.val) + value := by
      rw [limit_eq, Nat.mul_assoc]
    have low : (256 ^ (width form - 1) * (64 * form.val) + value) % 256 ^ (width form - 1) =
        value % 256 ^ (width form - 1) := Nat.mul_add_mod _ _ _
    rw [written, width_eq, Wire.beBytes_succ, high, Nat.mul_add_div positive,
      ← Wire.beBytes_mod, ← width_eq, low, Wire.beBytes_mod]
  · rw [← Wire.beBytes_succ, ← width_eq, Wire.beNat_beBytes, Nat.mod_eq_of_lt fits]

lemma shiftRight_first (form : Fin 4) (below : low < 64) :
    UInt8.ofNat (64 * form.val + low) >>> 6 = UInt8.ofNat form.val := by
  apply UInt8.toNat.inj
  simp only [UInt8.toNat_shiftRight, UInt8.toNat_ofNat', Nat.shiftRight_eq_div_pow,
    UInt8.reduceToNat, Nat.reduceMod, Nat.reducePow]
  omega

lemma and_first (form : Fin 4) (below : low < 64) :
    UInt8.ofNat (64 * form.val + low) &&& 63 = UInt8.ofNat low := by
  apply UInt8.toNat.inj
  have mask : (63 : UInt8).toNat = 2 ^ 6 - 1 := rfl
  rw [UInt8.toNat_and, mask, Nat.and_two_pow_sub_one_eq_mod, UInt8.toNat_ofNat', UInt8.toNat_ofNat']
  omega

lemma beNat_written (below : value < limit form) :
    Wire.beNat (written form value) = limit form * form.val + value := by
  rw [written, Wire.beNat_beBytes, Nat.mod_eq_of_lt (lt_of_lt_limit below)]

end TrustTunnel.Rfc9000.Varint
