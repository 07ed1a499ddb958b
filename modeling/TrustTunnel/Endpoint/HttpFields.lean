import Mathlib.Data.List.Basic
import TrustTunnel.Wire.Bytes

/-!
# HTTP header fields

What the translations between HTTP versions read in header fields: names without
regard to case, the options of a `Connection` field and decimal lengths.
-/

namespace TrustTunnel.Endpoint.Http

open Wire

inductive Version where
  | http09
  | http10
  | http11
  | http2
  | http3
  deriving DecidableEq

/-- A header field, as it is written in a message. -/
structure Field where
  name : String
  value : Bytes
  deriving DecidableEq

/-! ## Texts -/

/-- `char::is_whitespace`. -/
def isWhitespace (char : Char) : Bool :=
  (9 ≤ char.toNat && char.toNat ≤ 13) || char.toNat == 32 || char.toNat == 0x85 ||
    char.toNat == 0xA0 || char.toNat == 0x1680 ||
    (0x2000 ≤ char.toNat && char.toNat ≤ 0x200A) || char.toNat == 0x2028 ||
    char.toNat == 0x2029 || char.toNat == 0x202F || char.toNat == 0x205F || char.toNat == 0x3000

/-- `str::trim_end`. -/
def trimEnd (text : List Char) : List Char := (text.reverse.dropWhile isWhitespace).reverse

/-- `str::trim`. -/
def trim (text : List Char) : List Char := trimEnd (text.dropWhile isWhitespace)

/-- `char::to_lowercase`, as far as header names can tell. The Kelvin sign is the only
character outside of ASCII whose lower case is in ASCII; the others are left alone. -/
def toLowercase (char : Char) : Char := if char.toNat = 0x212A then 'k' else char.toLower

/-- The field names that the value of a `Connection` field adds to the ones to drop. -/
def connectionOptions (value : Bytes) : List String :=
  match value.fromUtf8 with
  | none => []
  | some text =>
    ((text.toList.splitOn ',').filter (· ≠ "close".toList)).map fun option =>
      .ofList ((trim option).map toLowercase)

/-- The name in lower case, as `to_ascii_lowercase` gives it. -/
def Field.lowerName (field : Field) : String := field.name.toLower

/-! ## Lengths -/

/-- `parse::<u64>`, which takes a plus sign as well. -/
def parseU64 (text : Bytes) : Option Nat :=
  let digits := if text.head? = some 43 then text.tail else text
  if digits ≠ [] ∧ digits.all isDigit = true ∧ decimalValue digits < 2 ^ 64 then
    some (decimalValue digits)
  else none

/-- The value is `1*DIGIT` and stands for the length. -/
structure Decimal (value : Bytes) (length : Nat) : Prop where
  nonempty : value ≠ []
  digits : value.all isDigit = true
  denotes : decimalValue value = length

lemma Decimal.parseU64_eq {value : Bytes} {length : Nat} (decimal : Decimal value length) :
    parseU64 value = if length < 2 ^ 64 then some length else none := by
  have unsigned : value.head? ≠ some 43 := by
    cases value with
    | nil => exact absurd rfl decimal.nonempty
    | cons =>
      intro plus
      cases plus
      have digits := decimal.digits
      simp [isDigit] at digits
  rw [parseU64, if_neg unsigned, decimal.denotes]
  simp [decimal.nonempty, decimal.digits]

/-- A text that is parsed consists of digits behind at most a plus sign, and denotes the
result if it has no plus sign. -/
lemma parseU64_eq_some {text : Bytes} {length : Nat} (parsed : parseU64 text = some length) :
    text ≠ [] ∧ (∀ byte ∈ text, isDigit byte = true ∨ byte = 43) ∧
      (text.all isDigit = true → decimalValue text = length) := by
  rw [parseU64, Option.ite_none_right_eq_some] at parsed
  obtain ⟨⟨nonempty, digits, -⟩, denotes⟩ := parsed
  cases text with
  | nil => exact absurd rfl nonempty
  | cons first rest =>
    by_cases plus : first = 43
    · subst plus
      refine ⟨List.cons_ne_nil _ _, ?_, fun all => ?_⟩
      · intro byte mem
        rcases List.mem_cons.mp mem with rfl | mem
        · exact .inr rfl
        · exact .inl (List.all_eq_true.mp digits byte mem)
      · rw [List.all_cons, Bool.and_eq_true] at all
        cases all.1
    · have unsigned : (first :: rest).head? ≠ some 43 := by simpa using plus
      rw [if_neg unsigned] at digits denotes
      exact ⟨List.cons_ne_nil _ _, fun byte mem => .inl (List.all_eq_true.mp digits byte mem),
        fun _ => Option.some.inj denotes⟩

end TrustTunnel.Endpoint.Http
