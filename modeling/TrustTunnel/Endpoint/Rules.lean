import Mathlib.Data.List.TakeWhile
import TrustTunnel.Net.Address

/-!
# Filter rules of the endpoint

A rule restricts the address of a client, the random of its TLS hello, or both.
-/

namespace TrustTunnel.Endpoint

open List

namespace Rules

/-- The functions of other crates. -/
structure Crates where
  hexDecode : String → Except String Bytes
  /-- `IpNet::contains` of a range that parses. -/
  ipNet : String → Option (IpAddr → Bool)

inductive RuleAction where
  | allow
  | deny
  deriving DecidableEq

structure Rule where
  cidr : Option String
  clientRandomPrefix : Option String
  action : RuleAction
  deriving DecidableEq

/-- The text before and behind the first slash. -/
def splitAtSlash (text : String) : Option (String × String) :=
  if '/' ∈ text.toList then
    let front := text.toList.takeWhile (· ≠ '/')
    some (.ofList front, .ofList (text.toList.drop (front.length + 1)))
  else none

/-- The comparison of the first bytes under a mask. -/
def maskedMatch (clientRandom prefixBytes maskBytes : Bytes) : Bool :=
  let maskLen := min (min maskBytes.length prefixBytes.length) clientRandom.length
  0 < maskLen && (List.range maskLen).all fun i =>
    clientRandom.getD i 0 &&& maskBytes.getD i 0 == prefixBytes.getD i 0 &&& maskBytes.getD i 0

namespace Rule

/-- The check of the address; `none` if the rule is invalid. -/
def cidrMatches (crates : Crates) (self : Rule) (clientIp : IpAddr) : Option Bool :=
  match self.cidr with
  | none => some true
  | some text => (crates.ipNet text).map fun contains => contains clientIp

/-- The check of the client random; `none` if the rule is invalid. -/
def clientRandomMatches (crates : Crates) (self : Rule) (clientRandom : Option Bytes) :
    Option Bool :=
  match self.clientRandomPrefix with
  | none => some true
  | some text =>
    match clientRandom with
    | none => some false
    | some clientRandom =>
      match splitAtSlash text with
      | some (prefixPart, maskPart) =>
        match crates.hexDecode prefixPart, crates.hexDecode maskPart with
        | .ok prefixBytes, .ok maskBytes => some (maskedMatch clientRandom prefixBytes maskBytes)
        | _, _ => none
      | none =>
        match crates.hexDecode text with
        | .ok prefixBytes => some (prefixBytes.isPrefixOf clientRandom)
        | .error _ => none

/-- `Rule::matches`. -/
def matchesClient (crates : Crates) (self : Rule) (clientIp : IpAddr)
    (clientRandom : Option Bytes) : Bool :=
  match self.cidrMatches crates clientIp with
  | none => false
  | some address =>
    match self.clientRandomMatches crates clientRandom with
    | none => false
    | some random => address && random

end Rule

lemma splitAtSlash_append {front : String} (plain : '/' ∉ front.toList) (back : String) :
    splitAtSlash (front ++ "/" ++ back) = some (front, back) := by
  have cut : (front ++ "/" ++ back).toList = front.toList ++ '/' :: back.toList := by
    simp [String.toList_append]
  have mem : '/' ∈ front.toList ++ '/' :: back.toList := mem_append_right _ mem_cons_self
  have first : (front.toList ++ '/' :: back.toList).takeWhile (· ≠ '/') = front.toList := by
    rw [takeWhile_append_of_pos]
    · simp
    · intro char mem
      apply decide_eq_true
      intro same
      exact plain (same ▸ mem)
  rw [splitAtSlash, cut, if_pos mem]
  simp only [first]
  rw [String.ofList_toList, ← singleton_append, ← append_assoc, drop_left'
    (by simp), String.ofList_toList]

end Rules

end TrustTunnel.Endpoint
