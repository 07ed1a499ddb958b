import Mathlib.Data.List.GetD
import TrustTunnel.Wire.Bytes

/-!
# The client random of a connection

The client can put bytes of its own at the front of the random in its TLS hello. Under
a mask, the bits that the mask leaves out are drawn at random.
-/

namespace TrustTunnel.Client.ClientRandom

open List

/-- The number of bytes that a mask covers. -/
def maskSize (tlsClientRandom mask : Bytes) : Nat := min mask.length tlsClientRandom.length

/-- The data that `make_ssl` gives to `SSL_set_custom_client_random`: no mask is an empty one,
and a short mask is filled up with ones. -/
def clientRandomData (tlsClientRandom mask randBytes : Bytes) : Bytes :=
  let maskSize := maskSize tlsClientRandom mask
  let maskData := mask.take maskSize ++ List.replicate (tlsClientRandom.length - maskSize) 0xff
  tlsClientRandom.mapIdx fun i byte =>
    if i < maskSize then
      (byte &&& maskData.getD i 0) ||| (randBytes.getD i 0 &&& ~~~maskData.getD i 0)
    else byte

variable {tlsClientRandom mask : Bytes} (randBytes : Bytes)

@[simp] lemma length_clientRandomData :
    (clientRandomData tlsClientRandom mask randBytes).length = tlsClientRandom.length :=
  length_mapIdx

lemma clientRandomData_nil : clientRandomData tlsClientRandom [] randBytes = tlsClientRandom := by
  have none : maskSize tlsClientRandom [] = 0 := Nat.zero_min _
  apply ext_getElem?
  intro i
  simp only [clientRandomData, none, Nat.not_lt_zero, if_false, getElem?_mapIdx]
  exact Option.map_id'

lemma and_mask (byte random mask : UInt8) :
    ((byte &&& mask) ||| (random &&& ~~~mask)) &&& mask = byte &&& mask := by
  apply UInt8.toBitVec_inj.mp
  ext i
  simp
  grind

lemma clientRandomData_and {i : Nat} (covered : i < maskSize tlsClientRandom mask) :
    (clientRandomData tlsClientRandom mask randBytes).getD i 0 &&& mask.getD i 0 =
      tlsClientRandom.getD i 0 &&& mask.getD i 0 := by
  have inside : i < tlsClientRandom.length := lt_of_lt_of_le covered (min_le_right _ _)
  have given : i < mask.length := lt_of_lt_of_le covered (min_le_left _ _)
  have front : i < (mask.take (maskSize tlsClientRandom mask)).length := by
    rw [length_take]
    omega
  have maskByte : (mask.take (maskSize tlsClientRandom mask) ++
      List.replicate (tlsClientRandom.length - maskSize tlsClientRandom mask) 0xff).getD i 0 =
        mask.getD i 0 := by
    rw [getD_append _ _ _ _ front, getD_eq_getElem?_getD,
      getElem?_take_of_lt covered, ← getD_eq_getElem?_getD]
  have byte : (clientRandomData tlsClientRandom mask randBytes).getD i 0 =
      (tlsClientRandom.getD i 0 &&& mask.getD i 0) ||| (randBytes.getD i 0 &&& ~~~mask.getD i 0) := by
    rw [clientRandomData, getD_eq_getElem?_getD, getElem?_mapIdx,
      getElem?_eq_getElem inside, Option.map_some, Option.getD_some]
    rw [if_pos covered, maskByte, getD_eq_getElem _ _ inside]
  rw [byte, and_mask]

end TrustTunnel.Client.ClientRandom
