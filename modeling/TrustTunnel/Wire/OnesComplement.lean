import TrustTunnel.Wire.Bytes

/-!
# One's complement sums of 16-bit words

The sum of a byte string with end-around carry depends only on the ordinary sum of its
words: it is the representative between 1 and 65535 of that sum modulo 65535, or zero.
-/

namespace TrustTunnel.Wire

/-- The 16-bit words of a byte string; a missing last byte counts as zero. -/
def words : Bytes → List Nat
  | [] => []
  | [high] => [high.toNat * 256]
  | high :: low :: rest => (high.toNat * 256 + low.toNat) :: words rest

/-- Addition of two words with end-around carry. -/
def onesAdd (left right : Nat) : Nat := (left + right) % 2 ^ 16 + (left + right) / 2 ^ 16

/-- The one's complement sum of a byte string. -/
def onesSum (bytes : Bytes) : Nat := (words bytes).foldl onesAdd 0

/-- The word that a sum of words is carried to. -/
def carried (total : Nat) : Nat := if total = 0 then 0 else (total - 1) % 65535 + 1

lemma words_lt (bytes : Bytes) : ∀ word ∈ words bytes, word < 2 ^ 16 := by
  fun_induction words bytes with
  | case1 => exact fun _ mem => absurd mem List.not_mem_nil
  | case2 high =>
    have := high.toNat_lt
    simp
    omega
  | case3 high low _ ih =>
    have := high.toNat_lt
    have := low.toNat_lt
    refine List.forall_mem_cons.mpr ⟨?_, ih⟩
    omega

lemma onesAdd_carried {word : Nat} (total : Nat) (bound : word < 2 ^ 16) :
    onesAdd (carried total) word = carried (total + word) := by
  rw [onesAdd, carried, carried]
  split_ifs <;> omega

lemma foldl_onesAdd {words : List Nat} (bounds : ∀ word ∈ words, word < 2 ^ 16) (total : Nat) :
    words.foldl onesAdd (carried total) = carried (total + words.sum) := by
  induction words generalizing total with
  | nil => rfl
  | cons _ _ ih =>
    rw [List.forall_mem_cons] at bounds
    rw [List.foldl_cons, onesAdd_carried total bounds.1, ih bounds.2, List.sum_cons, add_assoc]

lemma onesSum_eq (bytes : Bytes) : onesSum bytes = carried (words bytes).sum := by
  have carries := foldl_onesAdd (words_lt bytes) 0
  rwa [zero_add] at carries

/-- Folding a sum once gives the word, or one word too much. -/
lemma carried_eq {total : Nat} (fits : total < 2 ^ 32) :
    carried total =
      if total / 2 ^ 16 + total % 2 ^ 16 < 2 ^ 16 then total / 2 ^ 16 + total % 2 ^ 16
      else total / 2 ^ 16 + total % 2 ^ 16 - 65535 := by
  rw [carried]
  split_ifs with zero folds folds
  · omega
  · omega
  · have quotient : (total - 1) / 65535 = total / 2 ^ 16 := by
      apply Nat.div_eq_of_lt_le <;> omega
    omega
  · have quotient : (total - 1) / 65535 = total / 2 ^ 16 + 1 := by
      apply Nat.div_eq_of_lt_le <;> omega
    omega

end TrustTunnel.Wire
