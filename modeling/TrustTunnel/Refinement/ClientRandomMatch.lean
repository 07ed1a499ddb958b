import TrustTunnel.Client.ClientRandom
import TrustTunnel.Endpoint.Rules
import TrustTunnel.Rfc4648.Encodings

/-!
# The endpoint's rules recognise the client's random

The client fills up a short mask and the endpoint ignores what a mask does not cover;
both cut off a mask that is too long.
-/

namespace TrustTunnel.Refinement.ClientRandomMatch

open Client.ClientRandom Endpoint.Rules

/-- The text is a hexadecimal form of the bytes. -/
structure HexForm (crates : Crates) (text : String) (bytes : Bytes) : Prop where
  decodes : crates.hexDecode text = .ok bytes
  plain : '/' ∉ text.toList

/-- The client random of a connection: its first bytes are the data of the client. -/
structure IsClientRandom (random data : Bytes) : Prop where
  length : random.length = 32
  front : data <+: random

/-- The text of a rule for the prefix and, if it is there, the mask. -/
inductive IsRuleText (crates : Crates) (tlsClientRandom : Bytes) : Bytes → String → Prop where
  | unmasked {text : String} (form : HexForm crates text tlsClientRandom) :
      IsRuleText crates tlsClientRandom [] text
  | masked {mask : Bytes} {prefixText maskText : String} (nonempty : mask ≠ [])
      (prefixForm : HexForm crates prefixText tlsClientRandom)
      (maskForm : HexForm crates maskText mask) :
      IsRuleText crates tlsClientRandom mask (prefixText ++ "/" ++ maskText)

variable {crates : Crates} {random tlsClientRandom mask randBytes : Bytes}

lemma getD_of_prefix {front bytes : Bytes} (leads : front <+: bytes) {i : Nat}
    (inside : i < front.length) : bytes.getD i 0 = front.getD i 0 := by
  obtain ⟨rest, rfl⟩ := leads
  exact List.getD_append _ _ _ _ inside

section

variable (nonempty : tlsClientRandom ≠ [])
  (leads : clientRandomData tlsClientRandom mask randBytes <+: random)

include nonempty leads

/-- The endpoint's comparison accepts the client's data. -/
lemma maskedMatch_clientRandomData (masked : mask ≠ []) :
    maskedMatch random tlsClientRandom mask = true := by
  have data := leads.length_le
  have positivePrefix := List.length_pos_iff.mpr nonempty
  have positiveMask := List.length_pos_iff.mpr masked
  rw [length_clientRandomData] at data
  rw [maskedMatch, Bool.and_eq_true]
  refine ⟨decide_eq_true (by omega), List.all_eq_true.mpr ?_⟩
  intro i mem
  rw [List.mem_range] at mem
  have covered : i < maskSize tlsClientRandom mask := by
    rw [maskSize]
    omega
  have inside : i < (clientRandomData tlsClientRandom mask randBytes).length := by
    rw [length_clientRandomData]
    omega
  rw [beq_iff_eq, getD_of_prefix leads inside]
  exact clientRandomData_and randBytes covered

/-- A rule for the prefix and the mask accepts the client's data. -/
lemma clientRandomMatches_of_isRuleText {text : String}
    (rule : IsRuleText crates tlsClientRandom mask text) (cidr : Option String)
    (action : RuleAction) :
    (⟨cidr, some text, action⟩ : Rule).clientRandomMatches crates (some random) = some true := by
  rw [Rule.clientRandomMatches]
  dsimp only
  cases rule with
  | unmasked form =>
    rw [clientRandomData_nil] at leads
    rw [splitAtSlash, if_neg form.plain]
    rw [form.decodes]
    dsimp only
    rw [List.isPrefixOf_iff_prefix.mpr leads]
  | masked masked prefixForm maskForm =>
    rw [splitAtSlash_append prefixForm.plain]
    dsimp only
    rw [prefixForm.decodes, maskForm.decodes]
    dsimp only
    rw [maskedMatch_clientRandomData nonempty leads masked]

end

/-- Whatever is drawn at random, a rule for the prefix and the mask matches every client that
its address range admits. -/
theorem matchesClient_clientRandomData (crates : Crates) (tlsClientRandom mask randBytes : Bytes)
    (nonempty : tlsClientRandom ≠ []) (random : Bytes)
    (hello : IsClientRandom random (clientRandomData tlsClientRandom mask randBytes))
    (text : String) (rule : IsRuleText crates tlsClientRandom mask text) (cidr : Option String)
    (action : RuleAction) (clientIp : IpAddr)
    (admitted : (⟨cidr, some text, action⟩ : Rule).cidrMatches crates clientIp = some true) :
    (⟨cidr, some text, action⟩ : Rule).matchesClient crates clientIp (some random) = true := by
  rw [Rule.matchesClient, admitted,
    clientRandomMatches_of_isRuleText nonempty hello.front rule cidr action]
  rfl

/-! ## A connection -/

/-- The `hex` crate, and no address ranges. -/
def sampleCrates : Crates where
  hexDecode text :=
    match Rfc4648.Base16.decode text.toList with
    | some bytes => .ok bytes
    | none => .error "invalid hex"
  ipNet _ := none

/-- The random bits fall on the second digit of the first byte. -/
def sampleRandom : Bytes := 0xa7 :: 0xbb :: List.replicate 30 0x11

theorem matchesClient_sampleRandom :
    IsClientRandom sampleRandom (clientRandomData [0xaa, 0xbb] [0xf0] [0x37]) ∧
      (⟨none, some ("aabb" ++ "/" ++ "f0"), .deny⟩ : Rule).matchesClient sampleCrates
        (.v4 (.new 192 0 2 1)) (some sampleRandom) = true := by
  have hello : IsClientRandom sampleRandom (clientRandomData [0xaa, 0xbb] [0xf0] [0x37]) :=
    ⟨by decide, by decide⟩
  have rule : IsRuleText sampleCrates [0xaa, 0xbb] [0xf0] ("aabb" ++ "/" ++ "f0") :=
    .masked (by decide) ⟨by decide +kernel, by decide +kernel⟩ ⟨by decide +kernel, by decide +kernel⟩
  exact ⟨hello, matchesClient_clientRandomData sampleCrates [0xaa, 0xbb] [0xf0] [0x37] (by decide)
    sampleRandom hello _ rule none .deny _ rfl⟩

end TrustTunnel.Refinement.ClientRandomMatch
