import Mathlib.Data.List.AList
import TrustTunnel.Text.Segments
import TrustTunnel.Wire.Bytes

/-!
# The domain filter of the client

The exclusions of a user are a text of entries: addresses, address ranges, ports and
domains, the latter with an optional wildcard. Only the domain table decides about a
domain name. The parsers of addresses and ranges belong to other libraries and are
parameters; the caches of resolved addresses are left out.
-/

namespace TrustTunnel.Client.DomainFilter

def wwwPrefix : Bytes := .ofString "www."

def wildcardPrefix : Bytes := .ofString "*."

/-- The character that separates the labels of a domain. -/
def dot : UInt8 := 46

/-- `isspace` in the "C" locale. -/
def isspace (ch : UInt8) : Bool := ch == 32 || (9 ≤ ch && ch ≤ 13)

/-- `isalnum` in the "C" locale. -/
def isalnum (ch : UInt8) : Bool :=
  (48 ≤ ch && ch ≤ 57) || (65 ≤ ch && ch ≤ 90) || (97 ≤ ch && ch ≤ 122)

/-- A set of `MatchFlags`. -/
structure MatchFlagsSet where
  exact : Bool
  subdomains : Bool
  deriving DecidableEq

/-- `MatchFlagsSet::operator|=`. -/
def MatchFlagsSet.union (left right : MatchFlagsSet) : MatchFlagsSet :=
  ⟨left.exact || right.exact, left.subdomains || right.subdomains⟩

structure DomainEntryInfo where
  text : Bytes
  flags : MatchFlagsSet
  deriving DecidableEq

/-- The parsers of other libraries. An address or range that is not valid is `none`. -/
structure Parsers where
  SocketAddress : Type
  CidrRange : Type
  splitHostPort : Bytes → Option (Bytes × Bytes)
  toInteger : Bytes → Option Nat
  /-- `SocketAddress(host, port)`. -/
  socketAddress : Bytes → Nat → Option SocketAddress
  /-- `SocketAddress(host)`. -/
  hostAddress : Bytes → Option SocketAddress
  cidrRange : Bytes → Option CidrRange

inductive VpnMode where
  | general
  | selective

section

variable (parsers : Parsers)

inductive ParseResult where
  | address (address : parsers.SocketAddress)
  | range (range : parsers.CidrRange)
  | domain (info : DomainEntryInfo)
  | portOnly (port : Nat)
  | malformed

/-- The part of `parse_entry` for addresses and ports. -/
def parseAddress (entry : Bytes) : Option (ParseResult parsers) :=
  match parsers.splitHostPort entry with
  | none => none
  | some (host, portText) =>
    match parsers.toInteger portText, portText with
    | some port, _ :: _ =>
      if 0 < port ∧ port ≤ 65535 then
        if host = .ofString "*" then some (.portOnly port)
        else (parsers.socketAddress host port).map .address
      else none
    | _, _ => (parsers.hostAddress host).map .address

/-- The loop of `parse_entry` over the characters of a domain. -/
def wellFormed (lastCh : UInt8) : Bytes → Bool
  | [] => true
  | ch :: rest =>
    if !isalnum ch && ch != 45 && ch != 95 && ch != dot then false
    else if ch == dot && lastCh == dot then false
    else wellFormed ch rest

/-- `remove_prefix`, where the text starts with it. -/
def dropFront (front text : Bytes) : Bytes :=
  if front.isPrefixOf text then text.drop front.length else text

/-- The part of `parse_entry` for domains. -/
def parseDomain (entry : Bytes) : Option DomainEntryInfo :=
  let domain := dropFront (.ofString "*.") entry
  if domain = [] then none
  else if !wellFormed dot domain then none
  else if wildcardPrefix.isPrefixOf entry then
    some ⟨entry.drop wildcardPrefix.length, ⟨false, true⟩⟩
  else some ⟨dropFront wwwPrefix entry, ⟨true, false⟩⟩

def parseEntry (entry : Bytes) : ParseResult parsers :=
  match parseAddress parsers entry with
  | some result => result
  | none =>
    match parsers.cidrRange entry with
    | some range => .range range
    | none =>
      match parseDomain entry with
      | some info => .domain info
      | none => .malformed

/-- The tables that the exclusions are kept in. -/
structure Tables where
  mode : VpnMode
  domains : AList fun _ : Bytes => MatchFlagsSet
  addresses : List parsers.SocketAddress
  portsOnly : List Nat
  cidrRanges : List parsers.CidrRange

variable {parsers}

/-- `m_domains[text] |= flags`. -/
def addDomain (domains : AList fun _ : Bytes => MatchFlagsSet) (info : DomainEntryInfo) :
    AList fun _ : Bytes => MatchFlagsSet :=
  domains.insert info.text (((domains.lookup info.text).getD ⟨false, false⟩).union info.flags)

def addEntry (self : Tables parsers) (entry : Bytes) : Tables parsers :=
  match parseEntry parsers entry with
  | .address address => { self with addresses := address :: self.addresses }
  | .domain info => { self with domains := addDomain self.domains info }
  | .range range => { self with cidrRanges := range :: self.cidrRanges }
  | .portOnly port => { self with portsOnly := port :: self.portsOnly }
  | .malformed => self

/-- `update_exclusions`: the tables are cleared first. -/
def updateExclusions (mode : VpnMode) (exclusions : Bytes) : Tables parsers :=
  (Text.collect isspace [] exclusions).foldl addEntry ⟨mode, ∅, [], [], []⟩

end

inductive MatchStatus where
  | default
  | exclusion
  | suspectExclusion
  deriving DecidableEq

/-- The flags of an entry apply to a suffix of the domain. -/
def applies (flags : MatchFlagsSet) (wwwPrefixed : Bool) (domainLength seekLength : Nat) : Bool :=
  (flags.exact && (seekLength == domainLength ||
      (wwwPrefixed && seekLength + wwwPrefix.length == domainLength))) ||
    (flags.subdomains && seekLength < domainLength)

/-- The loop of `match_domain`. -/
def seekDomain (domains : AList fun _ : Bytes => MatchFlagsSet) (wwwPrefixed : Bool)
    (domainLength : Nat) (seek : Bytes) : MatchStatus :=
  if (domains.lookup seek).any (applies · wwwPrefixed domainLength seek.length) then .exclusion
  else
    match _found : seek.findIdx? (· == dot) with
    | none => .default
    | some nextDot =>
      if nextDot + 1 = seek.length then .default
      else seekDomain domains wwwPrefixed domainLength (seek.drop (nextDot + 1))
termination_by seek.length
decreasing_by
  obtain ⟨bound, -⟩ := List.findIdx?_eq_some_iff_findIdx_eq.mp _found
  rw [List.length_drop]
  omega

def matchDomain {parsers : Parsers} (self : Tables parsers) (domain : Bytes) : MatchStatus :=
  seekDomain self.domains (wwwPrefix.isPrefixOf domain) domain.length (dropFront wwwPrefix domain)

/-!
## Which domains are excluded

The filter looks up the suffixes of a domain in one table for both kinds of entries.
The rule it implements is stated over the entries of the text.
-/

open Text List

/-- Labels that a domain can be made of. -/
def Labels (labels : List Bytes) : Prop := labels ≠ [] ∧ ∀ label ∈ labels, label ≠ [] ∧ dot ∉ label

/-- The domain is made of non-empty labels. -/
def IsDomain (domain : Bytes) : Prop := ∃ labels, Labels labels ∧ domain = joined dot labels

/-- The entry stands for the domain: it is the domain up to one leading `www.`, or a wildcard
for the subdomains of something that the domain ends in. -/
def Covers (entry domain : Bytes) : Prop :=
  (¬wildcardPrefix <+: entry ∧ dropFront wwwPrefix entry = dropFront wwwPrefix domain) ∨
    ∃ base, entry = wildcardPrefix ++ base ∧ dot :: base <:+ domain

/-! ## The table of domains -/

section Table

variable {wwwPrefixed : Bool} {domainLength seekLength : Nat}

lemma applies_union (left right : MatchFlagsSet) :
    applies (left.union right) wwwPrefixed domainLength seekLength =
      (applies left wwwPrefixed domainLength seekLength ||
        applies right wwwPrefixed domainLength seekLength) := by
  simp only [applies, MatchFlagsSet.union, Bool.and_or_distrib_right]
  ac_rfl

variable {parsers : Parsers} {seek : Bytes}

lemma any_lookup_addDomain (domains : AList fun _ : Bytes => MatchFlagsSet)
    (info : DomainEntryInfo) :
    ((addDomain domains info).lookup seek).any (applies · wwwPrefixed domainLength seekLength) =
      ((domains.lookup seek).any (applies · wwwPrefixed domainLength seekLength) ||
        (info.text == seek && applies info.flags wwwPrefixed domainLength seekLength)) := by
  by_cases same : info.text = seek
  · subst same
    rw [addDomain, AList.lookup_insert, Option.any_some, applies_union, beq_self_eq_true]
    cases domains.lookup _ with
    | none | some => rfl
  · rw [addDomain, AList.lookup_insert_ne (Ne.symm same), beq_false_of_ne same, Bool.false_and,
      Bool.or_false]

lemma any_lookup_foldl (entries : List Bytes) (tables : Tables parsers) :
    ((entries.foldl addEntry tables).domains.lookup seek).any
        (applies · wwwPrefixed domainLength seekLength) = true ↔
      (tables.domains.lookup seek).any (applies · wwwPrefixed domainLength seekLength) = true ∨
        ∃ entry ∈ entries, ∃ info, parseEntry parsers entry = .domain info ∧
          info.text = seek ∧ applies info.flags wwwPrefixed domainLength seekLength = true := by
  induction entries generalizing tables with
  | nil => simp
  | cons entry _ ih =>
    rw [foldl_cons, ih]
    cases parsed : parseEntry parsers entry with
    | domain => simp [addEntry, parsed, any_lookup_addDomain, or_assoc]
    | address | range | portOnly | malformed => simp [addEntry, parsed]

lemma any_lookup_updateExclusions (mode : VpnMode) (exclusions : Bytes) :
    ((updateExclusions mode exclusions : Tables parsers).domains.lookup seek).any
        (applies · wwwPrefixed domainLength seekLength) = true ↔
      ∃ entry ∈ words isspace exclusions, ∃ info, parseEntry parsers entry = .domain info ∧
        info.text = seek ∧ applies info.flags wwwPrefixed domainLength seekLength = true := by
  rw [updateExclusions, any_lookup_foldl, collect_eq_words]
  simp

end Table

/-! ## The walk over the suffixes -/

variable {labels : List Bytes} {label : Bytes}

lemma joined_ne_nil (valid : Labels labels) : joined dot labels ≠ [] := by
  obtain ⟨nonempty, each⟩ := valid
  cases labels with
  | nil => exact absurd rfl nonempty
  | cons label labels =>
    intro empty
    by_cases last : labels = []
    · subst last
      exact (each label mem_cons_self).1 empty
    · rw [joined_cons label last] at empty
      exact absurd (congrArg List.length empty) (by simp)

lemma findIdx?_plain (plain : dot ∉ label) : label.findIdx? (· == dot) = none := by
  rw [findIdx?_eq_none_iff]
  intro ch mem
  rw [beq_eq_false_iff_ne]
  intro same
  exact plain (same ▸ mem)

lemma findIdx?_dot (plain : dot ∉ label) (rest : Bytes) :
    (label ++ dot :: rest).findIdx? (· == dot) = some label.length := by
  rw [findIdx?_append, findIdx?_plain plain, findIdx?_cons]
  simp

/-- The walk finds an entry exactly if one applies to some of the last labels. -/
lemma seekDomain_eq_exclusion {domains : AList fun _ : Bytes => MatchFlagsSet}
    {wwwPrefixed : Bool} {domainLength : Nat} (valid : Labels labels) :
    seekDomain domains wwwPrefixed domainLength (joined dot labels) = .exclusion ↔
      ∃ tail, tail ≠ [] ∧ tail <:+ labels ∧ (domains.lookup (joined dot tail)).any
        (applies · wwwPrefixed domainLength (joined dot tail).length) = true := by
  induction labels with
  | nil => exact absurd rfl valid.1
  | cons label labels ih =>
    by_cases here : (domains.lookup (joined dot (label :: labels))).any
        (applies · wwwPrefixed domainLength (joined dot (label :: labels)).length) = true
    · rw [seekDomain, if_pos here]
      exact iff_of_true rfl ⟨_, cons_ne_nil _ _, suffix_refl _, here⟩
    · have each := valid.2
      rw [forall_mem_cons] at each
      by_cases last : labels = []
      · subst last
        rw [seekDomain, if_neg here]
        split
        · apply iff_of_false
          · decide
          · rintro ⟨tail, nonempty, suffix, applied⟩
            rcases suffix_cons_iff.mp suffix with whole | rest
            · rw [whole] at applied
              exact here applied
            · exact nonempty (suffix_nil.mp rest)
        · rename_i found
          cases (findIdx?_plain each.1.2).symm.trans found
      · have rest : Labels labels := ⟨last, each.2⟩
        have found := findIdx?_dot each.1.2 (joined dot labels)
        rw [← joined_cons label last] at found
        have more : label.length + 1 ≠ (joined dot (label :: labels)).length := by
          have positive := length_pos_iff.mpr (joined_ne_nil rest)
          rw [joined_cons label last, length_append, length_cons]
          omega
        have behind : (joined dot (label :: labels)).drop (label.length + 1) =
            joined dot labels := by
          rw [joined_cons label last, drop_append]
          simp
        rw [seekDomain, if_neg here]
        split
        · rename_i missing
          cases found.symm.trans missing
        · rename_i same
          cases found.symm.trans same
          rw [if_neg more, behind, ih rest]
          constructor
          · rintro ⟨tail, nonempty, suffix, applied⟩
            exact ⟨tail, nonempty, suffix_cons_iff.mpr (.inr suffix), applied⟩
          · rintro ⟨tail, nonempty, suffix, applied⟩
            rcases suffix_cons_iff.mp suffix with whole | suffix
            · rw [whole] at applied
              exact absurd applied here
            · exact ⟨tail, nonempty, suffix, applied⟩

/-! ## The leading www -/

/-- The labels of the domain behind a leading `www.`, and what their length is. -/
structure Behind (labels kept : List Bytes) : Prop where
  nonempty : kept ≠ []
  last : kept <:+ labels
  dropped : dropFront wwwPrefix (joined dot labels) = joined dot kept
  /-- At most the first label is missing. -/
  proper : ∀ left right, left ≠ [] → right ≠ [] → labels = left ++ right → right <:+ kept
  length : (joined dot kept).length = (joined dot labels).length ∧
      wwwPrefix.isPrefixOf (joined dot labels) = false ∨
    (joined dot kept).length + wwwPrefix.length = (joined dot labels).length ∧
      wwwPrefix.isPrefixOf (joined dot labels) = true

lemma eq_singleton_of_joined {left : List Bytes} (nonempty : left ≠ [])
    (plain : dot ∉ joined dot left) : ∃ label, left = [label] := by
  cases left with
  | nil => exact absurd rfl nonempty
  | cons label left =>
    cases left with
    | nil => exact ⟨label, rfl⟩
    | cons =>
      apply absurd _ plain
      exact mem_append_right _ mem_cons_self

lemma exists_behind (valid : Labels labels) : ∃ kept, Behind labels kept := by
  by_cases www : wwwPrefix.isPrefixOf (joined dot labels) = true
  · obtain ⟨back, split⟩ := isPrefixOf_iff_prefix.mp www
    have ends : wwwPrefix = Bytes.ofString "www" ++ [dot] := by
      decide +kernel
    have cut : joined dot labels = Bytes.ofString "www" ++ dot :: back := by
      rw [← split, ends, append_assoc, singleton_append]
    obtain ⟨left, right, nonemptyLeft, nonemptyRight, parts, frontEq, backEq⟩ :=
      exists_of_joined_eq (fun label mem => (valid.2 label mem).2) cut
    obtain ⟨label, single⟩ := eq_singleton_of_joined nonemptyLeft (by rw [← frontEq]; decide +kernel)
    subst single
    refine ⟨right, nonemptyRight, ⟨[label], parts.symm⟩, ?_, ?_, .inr ⟨?_, www⟩⟩
    · rw [dropFront, if_pos www, ← split, drop_left, backEq]
    · intro front rest nonempty _ split
      cases front with
      | nil => exact absurd rfl nonempty
      | cons _ front =>
        rw [parts] at split
        obtain ⟨-, same⟩ := List.cons.inj split
        exact ⟨front, same.symm⟩
    · rw [← split, length_append, backEq, add_comm]
  · rw [Bool.not_eq_true] at www
    refine ⟨labels, valid.1, suffix_refl _, ?_, ?_, .inl ⟨rfl, www⟩⟩
    · rw [dropFront, www]
      rfl
    · intro left right _ _ split
      exact ⟨left, split.symm⟩

/-! ## The rule -/

lemma parseAddress_ne_domain {parsers : Parsers} (entry : Bytes) (info : DomainEntryInfo) :
    parseAddress parsers entry ≠ some (.domain info) := by
  rw [parseAddress]
  repeat' split
  all_goals simp

section

variable {parsers : Parsers} {entry : Bytes} {info : DomainEntryInfo}
  (parsed : parseEntry parsers entry = .domain info)

include parsed

lemma parseDomain_of_parseEntry : parseDomain entry = some info := by
  revert parsed
  fun_cases parseEntry parsers entry with
  | case1 _ address =>
    rintro rfl
    exact absurd address (parseAddress_ne_domain entry info)
  | case2 | case4 => exact nofun
  | case3 _ _ _ domain =>
    rintro ⟨⟩
    exact domain

lemma info_of_parseEntry :
    (∃ base, entry = wildcardPrefix ++ base ∧ info = ⟨base, ⟨false, true⟩⟩) ∨
      (¬wildcardPrefix <+: entry ∧ info = ⟨dropFront wwwPrefix entry, ⟨true, false⟩⟩) := by
  have domain := parseDomain_of_parseEntry parsed
  revert domain
  fun_cases parseDomain entry with
  | case1 | case2 => exact nofun
  | case3 _ _ _ wildcard =>
    obtain ⟨base, split⟩ := isPrefixOf_iff_prefix.mp wildcard
    rintro ⟨⟩
    refine .inl ⟨base, split.symm, ?_⟩
    rw [← split, drop_left]
  | case4 _ _ _ plain =>
    rintro ⟨⟩
    exact .inr ⟨fun wildcard => plain ( isPrefixOf_iff_prefix.mpr wildcard), rfl⟩

end

section Rule

variable {labels kept : List Bytes} (behind : Behind labels kept)

include behind

/-- An exact entry applies to the domain without a leading `www.` only. -/
lemma applies_exact {tail : List Bytes} (nonempty : tail ≠ []) (last : tail <:+ kept) :
    applies ⟨true, false⟩ (wwwPrefix.isPrefixOf (joined dot labels)) (joined dot labels).length
        (joined dot tail).length = true ↔ joined dot tail = joined dot kept := by
  have shorter := (joined_suffix nonempty last : joined dot tail <:+ joined dot kept)
  have le := shorter.length_le
  simp only [applies, Bool.true_and, Bool.false_and, Bool.or_false, Bool.or_eq_true,
    beq_iff_eq, Bool.and_eq_true]
  constructor
  · intro length
    apply shorter.eq_of_length
    rcases behind.length with ⟨same, none⟩ | ⟨same, some⟩
    · rw [none] at length
      simpa [same] using length
    · omega
  · intro same
    rw [same]
    rcases behind.length with ⟨same, none⟩ | ⟨same, some⟩
    · exact .inl same
    · exact .inr ⟨some, same⟩

/-- A wildcard applies to what the domain ends in behind a dot. -/
lemma exists_wildcard (valid : Labels labels) {base : Bytes} :
    (∃ tail, tail ≠ [] ∧ tail <:+ kept ∧ base = joined dot tail ∧
        base.length < (joined dot labels).length) ↔
      dot :: base <:+ joined dot labels := by
  constructor
  · rintro ⟨tail, nonempty, last, same, shorter⟩
    obtain ⟨left, parts⟩ := last.trans behind.last
    have proper : left ≠ [] := by
      intro whole
      rw [whole, nil_append] at parts
      rw [same, parts] at shorter
      exact lt_irrefl _ shorter
    refine ⟨joined dot left, ?_⟩
    rw [← parts, joined_append proper nonempty, same]
  · rintro ⟨front, split⟩
    obtain ⟨left, right, nonemptyLeft, nonemptyRight, parts, -, same⟩ :=
      exists_of_joined_eq (fun label mem => (valid.2 label mem).2) split.symm
    refine ⟨right, nonemptyRight, behind.proper left right nonemptyLeft nonemptyRight parts, same, ?_⟩
    rw [← split, length_append, length_cons]
    omega

end Rule

/-- A domain is excluded exactly if some accepted entry stands for it. -/
theorem matchDomain_eq_exclusion_iff (parsers : Parsers) (mode : VpnMode)
    (exclusions domain : Bytes) (isDomain : IsDomain domain) :
    matchDomain (updateExclusions mode exclusions : Tables parsers) domain = .exclusion ↔
      ∃ entry ∈ words isspace exclusions,
        (∃ info, parseEntry parsers entry = .domain info) ∧ Covers entry domain := by
  obtain ⟨labels, valid, rfl⟩ := isDomain
  obtain ⟨kept, behind⟩ := exists_behind valid
  have keptValid : Labels kept :=
    ⟨behind.nonempty, fun label mem => valid.2 label (behind.last.mem mem)⟩
  rw [matchDomain, behind.dropped, seekDomain_eq_exclusion keptValid]
  simp only [any_lookup_updateExclusions]
  constructor
  · rintro ⟨tail, nonempty, last, entry, mem, info, parsed, text, applied⟩
    refine ⟨entry, mem, ⟨info, parsed⟩, ?_⟩
    rcases info_of_parseEntry parsed with ⟨base, wildcard, rfl⟩ | ⟨plain, rfl⟩
    · refine .inr ⟨base, wildcard, (exists_wildcard behind valid).mp ⟨tail, nonempty, last, text, ?_⟩⟩
      rw [← text] at applied
      simpa [applies] using applied
    · refine .inl ⟨plain, ?_⟩
      rw [behind.dropped, ← (applies_exact behind nonempty last).mp applied]
      exact text
  · rintro ⟨entry, mem, ⟨info, parsed⟩, covers⟩
    rcases info_of_parseEntry parsed with ⟨base, wildcard, rfl⟩ | ⟨plain, rfl⟩
    · rcases covers with ⟨plain, -⟩ | ⟨other, split, ends⟩
      · exact absurd ⟨base, wildcard.symm⟩ plain
      · rw [wildcard, append_cancel_left_eq] at split
        subst split
        obtain ⟨tail, nonempty, last, same, shorter⟩ := (exists_wildcard behind valid).mpr ends
        refine ⟨tail, nonempty, last, entry, mem, _, parsed, same, ?_⟩
        rw [← same]
        simpa [applies] using shorter
    · rcases covers with ⟨-, same⟩ | ⟨base, wildcard, -⟩
      · refine ⟨kept, behind.nonempty, suffix_refl _, entry, mem, _, parsed, ?_, ?_⟩
        · rw [← behind.dropped]
          exact same
        · exact (applies_exact behind behind.nonempty (suffix_refl _)).mpr rfl
      · exact absurd ⟨base, wildcard.symm⟩ plain

/-- Parsers that know no address and no range. -/
def Parsers.namesOnly : Parsers where
  SocketAddress := Empty
  CidrRange := Empty
  splitHostPort entry := some (entry, [])
  toInteger _ := none
  socketAddress _ _ := none
  hostAddress _ := none
  cidrRange _ := none

def sampleExclusions : Bytes := .ofString " www.example.org\n*.example.com "

def sampleDomain : Bytes := .ofString "www.a.example.com"

theorem excluded_sampleDomain :
    IsDomain sampleDomain ∧
      matchDomain (updateExclusions .general sampleExclusions : Tables Parsers.namesOnly)
        sampleDomain = .exclusion := by
  have isDomain : IsDomain sampleDomain := by
    refine ⟨[.ofString "www", .ofString "a", .ofString "example", .ofString "com"], ⟨?_, ?_⟩, ?_⟩
    · exact cons_ne_nil _ _
    · decide +kernel
    · decide +kernel
  refine ⟨isDomain, (matchDomain_eq_exclusion_iff _ _ _ _ isDomain).mpr ?_⟩
  refine ⟨Bytes.ofString "*.example.com", by decide +kernel,
    ⟨⟨.ofString "example.com", ⟨false, true⟩⟩, ?_⟩, .inr ⟨Bytes.ofString "example.com", ?_, ?_⟩⟩
  · have domain : parseDomain (.ofString "*.example.com") =
        some ⟨.ofString "example.com", ⟨false, true⟩⟩ := by
      decide +kernel
    simp [parseEntry, parseAddress, Parsers.namesOnly, domain]
  · decide +kernel
  · decide +kernel

end TrustTunnel.Client.DomainFilter
