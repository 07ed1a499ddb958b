import Mathlib.Data.List.TakeWhile
import TrustTunnel.DeepLink.Codec
import TrustTunnel.Rfc4648.Encodings

/-!
# Deep links are read back

What the code does with one integer and with one entry at the front of the data is stated
whatever follows; an entry may use any form of its tag and of its length. A configuration is
written as a list of entries. Decoding folds the entries into the fields, and each group of
entries sets the fields that it was written from.
-/

namespace TrustTunnel.DeepLink

open Rfc9000 List Varint

/-! ## Integers -/

variable {form : Fin 4} {value : Nat}

/-- The bits of the form are set above those of the number. -/
lemma beBytes_or (small : value < limit form) :
    Wire.beBytes (width form) (value ||| limit form * form.val) = Varint.written form value := by
  rw [Varint.written, limit, Nat.or_comm, ← Nat.two_pow_add_eq_or_of_lt small]

lemma encodeVarint_eq (fits : value < 2 ^ 62) : encodeVarint value = .ok (minimal value) := by
  have zero : limit 0 = 2 ^ 6 := rfl
  have one : limit 1 = 2 ^ 14 := rfl
  have two : limit 2 = 2 ^ 30 := rfl
  rw [encodeVarint, minimal]
  by_cases below : value < limit 0
  · rw [if_pos (by omega), if_pos below]
    simp [Varint.written, width, Wire.beBytes]
  · rw [if_neg (by omega), if_neg below]
    by_cases below : value < limit 1
    · rw [if_pos (by omega), if_pos below]
      exact congrArg Except.ok (beBytes_or below)
    · rw [if_neg (by omega), if_neg below]
      by_cases below : value < limit 2
      · rw [if_pos (by omega), if_pos below]
        exact congrArg Except.ok (beBytes_or below)
      · rw [if_neg (by omega), if_neg below, if_pos (by omega)]
        exact congrArg Except.ok (@beBytes_or 3 value fits)

lemma decodeLong_written (small : value < limit form) (rest : Bytes) :
    decodeLong (width form) (limit form - 1) (Varint.written form value ++ rest) =
      .ok (value, rest) := by
  have length := length_written form value
  rw [decodeLong, if_neg (by rw [length_append]; omega), ← length, take_left,
    drop_left, beNat_written small, limit, Nat.and_two_pow_sub_one_eq_mod, Nat.mul_add_mod]
  exact congrArg (fun read => Except.ok (read, rest)) (Nat.mod_eq_of_lt small)

/-- The first byte tells the decoder how long the number is. -/
lemma decodeVarint_cons (nonzero : form ≠ 0) {first : UInt8}
    (high : first >>> 6 = UInt8.ofNat form.val) (tail : Bytes) :
    decodeVarint (first :: tail) = decodeLong (width form) (limit form - 1) (first :: tail) := by
  rw [decodeVarint, high]
  obtain ⟨_ | _ | _ | _ | beyond, bound⟩ := form
  · exact absurd rfl nonzero
  · rfl
  · rfl
  · rfl
  · omega

lemma decodeVarint_short (below : value < 64) (rest : Bytes) :
    decodeVarint (UInt8.ofNat value :: rest) = .ok (value, rest) := by
  have high : UInt8.ofNat value >>> 6 = 0 := by
    simpa using shiftRight_first 0 below
  have low : (UInt8.ofNat value &&& 0x3F).toNat = value := by
    have mask : (0x3F : UInt8).toNat = 2 ^ 6 - 1 := rfl
    rw [UInt8.toNat_and, mask, Nat.and_two_pow_sub_one_eq_mod, UInt8.toNat_ofNat']
    omega
  rw [decodeVarint, if_pos high, low]

variable {bytes : Bytes} {tag : Nat}

lemma decodeVarint_encodes (encodes : Varint.Encodes bytes value) (rest : Bytes) :
    decodeVarint (bytes ++ rest) = .ok (value, rest) := by
  obtain ⟨form, small, rfl⟩ := encodes
  by_cases short : form = 0
  · subst short
    rw [written_zero]
    exact decodeVarint_short small rest
  · obtain ⟨low, below, tail, cons, -⟩ := written_eq_cons small
    have long := decodeLong_written small rest
    rw [cons, cons_append] at long ⊢
    rw [decodeVarint_cons short (shiftRight_first form below), long]

/-! ## Entries -/

/-- The bytes are an entry with the tag and the value. -/
def IsEntry (bytes : Bytes) (tag : Nat) (value : Bytes) : Prop :=
  ∃ tagBytes lengthBytes, Varint.Encodes tagBytes tag ∧
    Varint.Encodes lengthBytes value.length ∧ bytes = tagBytes ++ lengthBytes ++ value

lemma ne_nil_of_encodes (encodes : Varint.Encodes bytes value) : bytes ≠ [] := by
  obtain ⟨form, small, rfl⟩ := encodes
  obtain ⟨low, -, tail, cons, -⟩ := written_eq_cons small
  rw [cons]
  exact cons_ne_nil _ _

lemma nextField_entry {value : Bytes} (entry : IsEntry bytes tag value) (rest : Bytes) :
    nextField (bytes ++ rest) = some (.ok ((TlvTag.fromU8 (.ofNat tag), value), rest)) := by
  obtain ⟨tagBytes, lengthBytes, tagged, sized, rfl⟩ := entry
  have nonempty : tagBytes ++ lengthBytes ++ value ++ rest ≠ [] := by
    intro empty
    simp only [append_eq_nil_iff] at empty
    exact ne_nil_of_encodes tagged empty.1.1.1
  rw [nextField, if_neg nonempty, append_assoc, append_assoc, decodeVarint_encodes tagged]
  dsimp only
  rw [decodeVarint_encodes sized]
  dsimp only
  rw [if_neg (by rw [length_append]; omega), take_left, drop_left]

variable (crates : Crates)

@[simp] lemma decodeFields_nil (fields : Fields) : decodeFields crates fields [] = .ok fields := by
  rw [decodeFields]
  rfl

lemma decodeFields_entry {value : Bytes} (entry : IsEntry bytes tag value) (fields : Fields)
    (rest : Bytes) :
    decodeFields crates fields (bytes ++ rest) =
      onEntry crates fields (TlvTag.fromU8 (.ofNat tag)) value >>= fun fields =>
        decodeFields crates fields rest := by
  rw [decodeFields]
  split
  · rename_i next
    rw [nextField_entry entry] at next
    cases next
  · rename_i next
    rw [nextField_entry entry] at next
    cases next
  · rename_i next
    rw [nextField_entry entry] at next
    cases next
    cases onEntry crates fields _ value with
    | error | ok => rfl

/-- What the other crates are documented to do. -/
structure Crates.Documented (crates : Crates) : Prop where
  base64 : ∀ bytes, crates.base64Decode (crates.base64Encode bytes) = .ok bytes
  hexEmpty : crates.hexDecode "" = .ok []
  /-- Hexadecimal digits only: there is no slash in what is accepted. -/
  hexDigits : ∀ text bytes, crates.hexDecode text = .ok bytes → '/' ∉ text.toList

/-! ## The entries of a configuration -/

/-- An entry with the shortest forms of its tag and its length. -/
def written (entry : TlvTag × Bytes) : Bytes :=
  Varint.minimal entry.1.asU8.toNat ++ Varint.minimal entry.2.length ++ entry.2

/-- Texts with their lengths in front. -/
def stringArray (strings : List String) : Bytes := strings.flatMap fun text =>
    Varint.minimal (Bytes.ofString text).length ++ Bytes.ofString text

namespace DeepLinkConfig

def addressEntries (cfg : DeepLinkConfig) : List (TlvTag × Bytes) :=
  cfg.addresses.map fun address => (.address, .ofString address)

def clientRandomEntries (cfg : DeepLinkConfig) : List (TlvTag × Bytes) :=
  match cfg.clientRandomPrefix with
  | some text => if text = "" then [] else [(.clientRandomPrefix, .ofString text)]
  | none => []

/-- The entry of an optional text. -/
def textEntries (tag : TlvTag) : Option String → List (TlvTag × Bytes)
  | some text => [(tag, .ofString text)]
  | none => []

def flagEntries (cfg : DeepLinkConfig) : List (TlvTag × Bytes) :=
  (if cfg.hasIpv6 = false then [(.hasIpv6, [0x00])] else []) ++
    (if cfg.skipVerification = true then [(.skipVerification, [0x01])] else []) ++
    (if cfg.antiDpi = true then [(.antiDpi, [0x01])] else [])

def certificateEntries (cfg : DeepLinkConfig) : List (TlvTag × Bytes) :=
  match cfg.certificate with
  | some der => [(.certificate, der)]
  | none => []

def protocolEntries (cfg : DeepLinkConfig) : List (TlvTag × Bytes) :=
  if cfg.upstreamProtocol ≠ .http2 then
    [(.upstreamProtocol, [cfg.upstreamProtocol.asU8])]
  else []

def upstreamEntries (cfg : DeepLinkConfig) : List (TlvTag × Bytes) :=
  if cfg.dnsUpstreams = [] then []
  else [(.dnsUpstreams, stringArray cfg.dnsUpstreams)]

/-- The entries in the order in which they are written. -/
def entries (cfg : DeepLinkConfig) : List (TlvTag × Bytes) :=
  [(.version, Varint.minimal currentVersion), (.hostname, .ofString cfg.hostname),
    (.username, .ofString cfg.username), (.password, .ofString cfg.password)] ++
    cfg.addressEntries ++ cfg.clientRandomEntries ++
    textEntries .customSni cfg.customSni ++ cfg.flagEntries ++
    cfg.certificateEntries ++ cfg.protocolEntries ++ textEntries .name cfg.name ++
    cfg.upstreamEntries

/-- Every length that is written has a form. -/
def Fits (cfg : DeepLinkConfig) : Prop := ∀ entry ∈ cfg.entries, entry.2.length < 2 ^ 62

end DeepLinkConfig

/-! ## Writing -/

lemma encodeTlv_eq (tag : TlvTag) {value : Bytes} (fits : value.length < 2 ^ 62) :
    encodeTlv tag value = .ok (written (tag, value)) := by
  have small := tag.asU8_le
  rw [encodeTlv, encodeVarint_eq (by omega), encodeVarint_eq fits]
  rfl

variable {strings : List String}

lemma encodeStringArray_eq (fits : (stringArray strings).length < 2 ^ 62) :
    encodeStringArray strings = .ok (stringArray strings) := by
  induction strings with
  | nil => rfl
  | cons _ _ ih =>
    rw [stringArray, flatMap_cons, ← stringArray, length_append, length_append] at fits
    rw [encodeStringArray, encodeVarint_eq (by omega), ih (by omega)]
    rfl

/-- The lengths of a group of entries have forms. -/
def EntriesFit (entries : List (TlvTag × Bytes)) : Prop :=
  ∀ entry ∈ entries, entry.2.length < 2 ^ 62

lemma entriesFit_append {left right : List (TlvTag × Bytes)} :
    EntriesFit (left ++ right) ↔ EntriesFit left ∧ EntriesFit right :=
  forall_mem_append

variable {tag : TlvTag}

lemma encodeTlv_of_fit {value : Bytes} (fits : EntriesFit [(tag, value)]) :
    encodeTlv tag value = .ok ([(tag, value)].flatMap written) := by
  rw [encodeTlv_eq tag (fits (tag, value) mem_cons_self), flatMap_singleton]

namespace DeepLinkConfig

variable {cfg : DeepLinkConfig}

lemma encodeAddresses_eq (fits : EntriesFit cfg.addressEntries) :
    encodeAddresses cfg.addresses = .ok (cfg.addressEntries.flatMap written) := by
  rw [addressEntries] at fits ⊢
  generalize cfg.addresses = addresses at fits
  induction addresses with
  | nil => rfl
  | cons _ _ ih =>
    rw [map_cons, EntriesFit, forall_mem_cons] at fits
    rw [encodeAddresses, encodeStringField, encodeTlv_eq _ fits.1, ih fits.2]
    rfl

lemma encodeClientRandom_eq (fits : EntriesFit cfg.clientRandomEntries) :
    encodeOptional (fun text => encodeWhen (text ≠ "") (encodeStringField .clientRandomPrefix text))
        cfg.clientRandomPrefix =
      .ok (cfg.clientRandomEntries.flatMap written) := by
  rw [clientRandomEntries] at fits ⊢
  generalize cfg.clientRandomPrefix = client at fits
  cases client with
  | none => rfl
  | some text =>
    by_cases empty : text = ""
    · simp [encodeOptional, encodeWhen, if_pos empty]
    · simp only [encodeOptional, encodeWhen, if_pos empty, if_neg empty] at fits ⊢
      exact encodeTlv_of_fit fits

lemma encodeText_eq {text : Option String} (fits : EntriesFit (textEntries tag text)) :
    encodeOptional (encodeStringField tag) text = .ok ((textEntries tag text).flatMap written) := by
  cases text with
  | none => rfl
  | some => exact encodeTlv_of_fit fits

lemma encodeCertificate_eq (fits : EntriesFit cfg.certificateEntries) :
    encodeOptional (encodeTlv .certificate) cfg.certificate =
      .ok (cfg.certificateEntries.flatMap written) := by
  rw [certificateEntries] at fits ⊢
  generalize cfg.certificate = certificate at fits
  cases certificate with
  | none => rfl
  | some => exact encodeTlv_of_fit fits

/-- A field of one byte that is written on a condition. -/
lemma encodeWhen_byte (condition : Prop) [Decidable condition] (tag : TlvTag) (byte : UInt8) :
    encodeWhen condition (encodeTlv tag [byte]) =
      .ok ((if condition then [(tag, [byte])] else []).flatMap written) := by
  rw [encodeWhen, encodeTlv_eq tag (show [byte].length < 2 ^ 62 from (by decide : 1 < 2 ^ 62))]
  split
  · rw [flatMap_singleton]
  · rfl

lemma encodeUpstreams_eq (fits : EntriesFit cfg.upstreamEntries) :
    encodeWhen (cfg.dnsUpstreams ≠ []) (encodeStringArrayField .dnsUpstreams cfg.dnsUpstreams) =
      .ok (cfg.upstreamEntries.flatMap written) := by
  rw [upstreamEntries] at fits ⊢
  rw [encodeWhen]
  by_cases empty : cfg.dnsUpstreams = []
  · rw [if_neg (not_not_intro empty), if_pos empty, flatMap_nil]
  · rw [if_neg empty] at fits
    rw [if_pos empty, if_neg empty, encodeStringArrayField,
      encodeStringArray_eq (fits _ mem_cons_self)]
    exact encodeTlv_of_fit fits

lemma encodeTlvPayload_eq (complete : cfg.Complete) (fits : cfg.Fits) :
    encodeTlvPayload cfg = .ok (cfg.entries.flatMap written) := by
  have parts : EntriesFit cfg.entries := fits
  simp only [entries, entriesFit_append] at parts
  obtain ⟨⟨⟨⟨⟨⟨⟨⟨required, addresses⟩, clientRandom⟩, customSni⟩, flags⟩, certificate⟩,
    protocol⟩, name⟩, upstreams⟩ := parts
  have one : ∀ tag value, (tag, value) ∈ ([(.version, minimal currentVersion),
      (.hostname, .ofString cfg.hostname), (.username, .ofString cfg.username),
      (.password, .ofString cfg.password)] : List (TlvTag × Bytes)) →
      encodeTlv tag value = .ok (written (tag, value)) := by
    intro tag value mem
    exact encodeTlv_eq tag (required _ mem)
  have flag : ∀ (condition : Prop) [Decidable condition] (tag : TlvTag) (value : Bool),
      encodeWhen condition (encodeBoolField tag value) =
        .ok ((if condition then [(tag, [if value then 0x01 else 0x00])] else []).flatMap
          written) := by
    intro condition _ tag value
    cases value with
    | true => exact encodeWhen_byte _ tag 0x01
    | false => exact encodeWhen_byte _ tag 0x00
  rw [encodeTlvPayload, validate_eq_ok.mpr complete,
    encodeVarint_eq (show currentVersion < 2 ^ 62 by decide), encodeAddresses_eq addresses,
    encodeClientRandom_eq clientRandom, encodeText_eq customSni, flag, flag, flag,
    encodeCertificate_eq certificate, encodeProtocolField, encodeWhen_byte,
    encodeText_eq name, encodeUpstreams_eq upstreams, encodeStringField, encodeStringField,
    encodeStringField]
  simp only [ok_bind]
  rw [one .hostname _ (by simp), one .username _ (by simp), one .password _ (by simp)]
  simp only [entries, flagEntries, protocolEntries, flatMap_append, flatMap_cons,
    flatMap_nil, append_assoc, append_nil]
  rfl

end DeepLinkConfig

/-! ## Reading -/

lemma isEntry_written {entry : TlvTag × Bytes} (fits : entry.2.length < 2 ^ 62) :
    IsEntry (written entry) entry.1.asU8.toNat entry.2 := by
  have small := entry.1.asU8_le
  exact ⟨_, _, encodes_minimal (by omega), encodes_minimal fits, rfl⟩

variable {crates : Crates} {text : String} {client : Option String}
  {entries : List (TlvTag × Bytes)}

/-- The loop over written entries folds them into the fields. -/
lemma decodeFields_written (fits : EntriesFit entries) (fields : Fields) :
    decodeFields crates fields (entries.flatMap written) =
      entries.foldlM (fun fields entry => onField crates fields entry.1 entry.2) fields := by
  induction entries generalizing fields with
  | nil => exact decodeFields_nil crates fields
  | cons _ _ ih =>
    rw [EntriesFit, forall_mem_cons] at fits
    rw [flatMap_cons, decodeFields_entry crates (isEntry_written fits.1),
      UInt8.ofNat_toNat, TlvTag.fromU8_asU8]
    congr 1
    funext fields
    exact ih fits.2 fields

lemma decodeString_ofString (text : String) : decodeString (.ofString text) = .ok text := by
  rw [decodeString, Bytes.fromUtf8_ofString]

lemma decodeStringArray_cons (fits : (Bytes.ofString text).length < 2 ^ 62) (rest : Bytes) :
    decodeStringArray (minimal (Bytes.ofString text).length ++ Bytes.ofString text ++ rest) =
      (decodeStringArray rest).map (text :: ·) := by
  have encodes := encodes_minimal fits
  have read := decodeVarint_encodes encodes (Bytes.ofString text ++ rest)
  rw [← append_assoc] at read
  rw [decodeStringArray]
  have nonempty : minimal (Bytes.ofString text).length ++ Bytes.ofString text ++ rest ≠ [] := by
    intro empty
    simp only [append_eq_nil_iff] at empty
    exact ne_nil_of_encodes encodes empty.1.1
  rw [if_neg nonempty]
  split
  · rename_i failed
    rw [read] at failed
    cases failed
  · rename_i found
    rw [read] at found
    cases found
    rw [if_neg (by rw [length_append]; omega), take_left, drop_left, decodeString_ofString]
    cases decodeStringArray rest with
    | error | ok => rfl

lemma decodeStringArray_stringArray (fits : (stringArray strings).length < 2 ^ 62) :
    decodeStringArray (stringArray strings) = .ok strings := by
  induction strings with
  | nil =>
    rw [stringArray, decodeStringArray]
    rfl
  | cons _ _ ih =>
    rw [stringArray, flatMap_cons, ← stringArray] at fits ⊢
    rw [length_append, length_append] at fits
    rw [decodeStringArray_cons (by omega), ih (by omega)]
    rfl

lemma splitMask_eq (slash : '/' ∉ text.toList) : splitMask text = (text, "") := by
  have whole : text.toList.takeWhile (· ≠ '/') = text.toList := by
    apply takeWhile_eq_self_iff.mpr
    intro char mem
    apply decide_eq_true
    intro same
    exact slash (same ▸ mem)
  rw [splitMask, whole, String.ofList_toList, drop_of_length_le (Nat.le_succ _)]

/-- The decoder's check of what is written for a prefix. -/
def acceptClientRandom (crates : Crates) : Option String → Except DeepLinkError Unit
  | some text => if text ≠ "" then checkClientRandom crates text else .ok ()
  | none => .ok ()

/-- Without a mask, the decoder checks what the builder does. -/
lemma checkClientRandom_eq (documented : crates.Documented) (slash : '/' ∉ text.toList) :
    checkClientRandom crates text = checkHex crates "client_random_prefix" text := by
  rw [checkClientRandom, splitMask_eq slash]
  dsimp only
  rw [checkHex.eq_def crates "client_random_prefix mask", documented.hexEmpty]
  exact bind_pure _

lemma acceptClientRandom_eq (documented : crates.Documented)
    (plain : ∀ text, client = some text → '/' ∉ text.toList) :
    acceptClientRandom crates client = checkClientRandomPrefix crates client := by
  cases client with
  | none => rfl
  | some text =>
    rw [acceptClientRandom, checkClientRandomPrefix, checkClientRandom_eq documented (plain text rfl)]

/-- There is no slash in a prefix that the builder accepts. -/
lemma plain_of_checked (documented : crates.Documented)
    (checked : checkClientRandomPrefix crates client = .ok ()) :
    ∀ text, client = some text → '/' ∉ text.toList := by
  rintro text rfl slash
  have present : text ≠ "" := by
    rintro rfl
    cases slash
  rw [checkClientRandomPrefix, if_pos present, checkHex] at checked
  split at checked
  · exact documented.hexDigits text _ ‹_› slash
  · cases checked

namespace DeepLinkConfig

variable {cfg : DeepLinkConfig}

/-- The configuration without an empty prefix. -/
def normalized (cfg : DeepLinkConfig) : DeepLinkConfig :=
  { cfg with clientRandomPrefix := cfg.clientRandomPrefix.filter (· ≠ "") }

/-- Fold the entries into the fields, as the loop does. -/
def readInto (crates : Crates) (fields : Fields) (entries : List (TlvTag × Bytes)) :
    Except DeepLinkError Fields :=
  entries.foldlM (fun fields entry => onField crates fields entry.1 entry.2) fields

lemma readInto_append (fields : Fields) (left right : List (TlvTag × Bytes)) :
    readInto crates fields (left ++ right) =
      readInto crates fields left >>= fun fields => readInto crates fields right :=
  foldlM_append

lemma readInto_singleton (fields : Fields) (tag : TlvTag) (value : Bytes) :
    readInto crates fields [(tag, value)] = onField crates fields tag value := by
  exact bind_pure _

lemma read_required (cfg : DeepLinkConfig) :
    readInto crates {} [(.version, minimal currentVersion),
        (.hostname, .ofString cfg.hostname), (.username, .ofString cfg.username),
        (.password, .ofString cfg.password)] =
      .ok { hostname := some cfg.hostname, username := some cfg.username,
            password := some cfg.password } := by
  simp only [readInto, foldlM_cons, foldlM_nil, onField, decodeString_ofString]
  rfl

lemma read_addresses (cfg : DeepLinkConfig) (fields : Fields) :
    readInto crates fields cfg.addressEntries =
      .ok { fields with addresses := fields.addresses ++ cfg.addresses } := by
  rw [addressEntries, readInto]
  induction cfg.addresses generalizing fields with
  | nil =>
    rw [append_nil]
    rfl
  | cons _ _ ih =>
    rw [map_cons, foldlM_cons]
    simp only [onField, decodeString_ofString]
    refine (ih _).trans ?_
    rw [append_assoc, singleton_append]

section

variable {fields : Fields}

lemma read_clientRandom (unset : fields.clientRandomPrefix = none) :
    readInto crates fields cfg.clientRandomEntries =
      acceptClientRandom crates cfg.clientRandomPrefix >>= fun _ =>
        .ok { fields with clientRandomPrefix := cfg.normalized.clientRandomPrefix } := by
  rw [clientRandomEntries, normalized]
  cases cfg.clientRandomPrefix with
  | none =>
    cases fields
    cases unset
    rfl
  | some text =>
    by_cases empty : text = ""
    · cases fields
      cases unset
      subst empty
      rfl
    · have kept : (some text).filter (· ≠ "") = some text :=
        Option.filter_some_pos (decide_eq_true empty)
      rw [kept, acceptClientRandom, if_pos empty]
      simp only [if_neg empty, readInto_singleton, onField, decodeString_ofString]
      rfl

lemma read_text {set : Option String → Fields} (unset : set none = fields)
    (reads : ∀ text, onField crates fields tag (.ofString text) = .ok (set (some text)))
    (text : Option String) : readInto crates fields (textEntries tag text) = .ok (set text) := by
  cases text with
  | none => exact congrArg _ unset.symm
  | some text =>
    rw [textEntries, readInto_singleton]
    exact reads text

lemma read_customSni (unset : fields.customSni = none) (text : Option String) :
    readInto crates fields (textEntries .customSni text) =
      .ok { fields with customSni := text } := by
  apply read_text
  · cases fields
    cases unset
    rfl
  · intro text
    simp only [onField, decodeString_ofString]
    rfl

lemma read_name (unset : fields.name = none) (text : Option String) :
    readInto crates fields (textEntries .name text) = .ok { fields with name := text } := by
  apply read_text
  · cases fields
    cases unset
    rfl
  · intro text
    simp only [onField, decodeString_ofString]
    rfl

lemma read_flags (cfg : DeepLinkConfig) (hasIpv6 : fields.hasIpv6 = true)
    (skipVerification : fields.skipVerification = false) (antiDpi : fields.antiDpi = false) :
    readInto crates fields cfg.flagEntries =
      .ok { fields with
            hasIpv6 := cfg.hasIpv6
            skipVerification := cfg.skipVerification
            antiDpi := cfg.antiDpi } := by
  cases fields
  cases hasIpv6
  cases skipVerification
  cases antiDpi
  rw [flagEntries]
  cases cfg.hasIpv6 <;> cases cfg.skipVerification <;> cases cfg.antiDpi <;> rfl

lemma read_certificate (cfg : DeepLinkConfig) (unset : fields.certificate = none) :
    readInto crates fields cfg.certificateEntries =
      .ok { fields with certificate := cfg.certificate } := by
  cases fields
  cases unset
  rw [certificateEntries]
  cases cfg.certificate with
  | none | some => rfl

lemma read_protocol (cfg : DeepLinkConfig) (unset : fields.upstreamProtocol = .http2) :
    readInto crates fields cfg.protocolEntries =
      .ok { fields with upstreamProtocol := cfg.upstreamProtocol } := by
  cases fields
  cases unset
  rw [protocolEntries]
  cases cfg.upstreamProtocol with
  | http2 | http3 => rfl

lemma read_upstreams (unset : fields.dnsUpstreams = []) (fits : EntriesFit cfg.upstreamEntries) :
    readInto crates fields cfg.upstreamEntries =
      .ok { fields with dnsUpstreams := cfg.dnsUpstreams } := by
  rw [upstreamEntries] at fits ⊢
  by_cases empty : cfg.dnsUpstreams = []
  · cases fields
    cases unset
    rw [empty]
    rfl
  · rw [if_neg empty] at fits ⊢
    have read := decodeStringArray_stringArray (fits _ mem_cons_self)
    simp only [readInto_singleton, onField, read]
    rfl

end

/-- The fields of a configuration. -/
def fields (cfg : DeepLinkConfig) : Fields where
  hostname := some cfg.hostname
  addresses := cfg.addresses
  username := some cfg.username
  password := some cfg.password
  customSni := cfg.customSni
  hasIpv6 := cfg.hasIpv6
  skipVerification := cfg.skipVerification
  certificate := cfg.certificate
  upstreamProtocol := cfg.upstreamProtocol
  antiDpi := cfg.antiDpi
  clientRandomPrefix := cfg.clientRandomPrefix
  name := cfg.name
  dnsUpstreams := cfg.dnsUpstreams

lemma finish_fields (complete : cfg.Complete) : finish cfg.fields = .ok cfg := by
  have valid := validate_eq_ok.mpr complete
  have present : requireAddress cfg.addresses = .ok () := if_neg complete.addresses
  simp only [finish, fields, okOr, present, ok_bind]
  rw [valid]
  rfl

/-- All entries together set the fields of the configuration. -/
lemma read_entries (fits : cfg.Fits) :
    readInto crates {} cfg.entries =
      acceptClientRandom crates cfg.clientRandomPrefix >>= fun _ => .ok cfg.normalized.fields := by
  have parts : EntriesFit cfg.entries := fits
  rw [entries, entriesFit_append] at parts
  simp only [entries, readInto_append, read_required, read_addresses, ok_bind]
  rw [read_clientRandom rfl]
  cases acceptClientRandom crates _ with
  | error => rfl
  | ok =>
    simp only [bind, Except.bind]
    rw [read_customSni rfl]
    dsimp only
    rw [read_flags cfg rfl rfl rfl]
    dsimp only
    rw [read_certificate cfg rfl]
    dsimp only
    rw [read_protocol cfg rfl]
    dsimp only
    rw [read_name rfl]
    dsimp only
    rw [read_upstreams rfl parts.2]
    rfl

end DeepLinkConfig

/-- What the builder has checked of a configuration it returns. -/
lemma DeepLinkConfigBuilder.of_build {builder : DeepLinkConfigBuilder}
    {cfg : DeepLinkConfig} (built : builder.build crates = .ok cfg) :
    cfg.Complete ∧ checkClientRandomPrefix crates cfg.clientRandomPrefix = .ok () := by
  simp only [build, bind_eq_ok] at built
  obtain ⟨_, checked, hostname, -, addresses, -, username, -, password, -, _, valid, same⟩ := built
  cases same
  exact ⟨DeepLinkConfig.validate_eq_ok.mp valid, checked⟩

lemma stripPrefix_append (front text : String) : stripPrefix (front ++ text) front = some text := by
  rw [stripPrefix, String.toList_append, if_pos (by simp), drop_left, String.ofList_toList]

lemma decode_encoded (documented : crates.Documented) (payload : Bytes) :
    decode crates ("tt://?" ++ crates.base64Encode payload) = decodeTlvPayload crates payload := by
  have scheme : stripPrefix ("tt://?" ++ crates.base64Encode payload) "tt://" ≠ none := by
    have split : "tt://?" ++ crates.base64Encode payload =
        "tt://" ++ ("?" ++ crates.base64Encode payload) := by
      rw [← String.append_assoc]
      rfl
    rw [split, stripPrefix_append]
    exact Option.some_ne_none _
  rw [decode, if_neg scheme, stripPrefix_append, Option.some_or, okOr]
  simp [ok_bind, documented.base64]

namespace DeepLinkConfig

/-- The link that is written for a configuration. -/
def link (crates : Crates) (cfg : DeepLinkConfig) : String :=
  "tt://?" ++ crates.base64Encode (cfg.entries.flatMap written)

lemma encode_eq (cfg : DeepLinkConfig) (complete : cfg.Complete) (fits : cfg.Fits) :
    encode crates cfg = .ok (cfg.link crates) := by
  rw [encode, encodeTlvPayload_eq complete fits]
  rfl

lemma decode_link (cfg : DeepLinkConfig) (documented : crates.Documented)
    (complete : cfg.Complete) (fits : cfg.Fits) :
    decode crates (cfg.link crates) =
      acceptClientRandom crates cfg.clientRandomPrefix >>= fun _ => .ok cfg.normalized := by
  have normal : cfg.normalized.Complete :=
    ⟨complete.hostname, complete.addresses, complete.username, complete.password⟩
  have read := @read_entries crates cfg fits
  rw [readInto] at read
  rw [link, decode_encoded documented, decodeTlvPayload, decodeFields_written fits, read]
  cases acceptClientRandom crates _ with
  | error => rfl
  | ok => exact finish_fields normal

end DeepLinkConfig

/-- A configuration of the builder is read back as it was written, but for an empty prefix. -/
theorem decode_encode_of_build (crates : Crates) (documented : crates.Documented)
    (builder : DeepLinkConfigBuilder) (cfg : DeepLinkConfig)
    (built : builder.build crates = .ok cfg) (fits : cfg.Fits) :
    ∃ uri, encode crates cfg = .ok uri ∧ decode crates uri = .ok cfg.normalized := by
  obtain ⟨complete, checked⟩ := DeepLinkConfigBuilder.of_build built
  refine ⟨cfg.link crates, cfg.encode_eq complete fits, ?_⟩
  rw [cfg.decode_link documented complete fits,
    acceptClientRandom_eq documented (plain_of_checked documented checked), checked]
  rfl

/-! ## A configuration -/

/-- The two encodings as RFC 4648 has them. -/
def Crates.rfc4648 : Crates where
  base64Encode bytes := .ofList (Rfc4648.Base64Url.encode bytes)
  base64Decode text :=
    match Rfc4648.Base64Url.decode text.toList with
    | some bytes => .ok bytes
    | none => .error "invalid base64url"
  hexDecode text :=
    match Rfc4648.Base16.decode text.toList with
    | some bytes => .ok bytes
    | none => .error "invalid hex"

lemma Crates.documented_rfc4648 : Crates.rfc4648.Documented where
  base64 := by
    intro bytes
    simp [rfc4648, Rfc4648.Base64Url.decode_encode]
  hexEmpty := rfl
  hexDigits := by
    intro text bytes decoded slash
    simp only [rfc4648] at decoded
    split at decoded
    · rename_i digits
      exact Rfc4648.Base16.value_ne_none digits '/' slash (by decide)
    · cases decoded

def vpnBuilder : DeepLinkConfigBuilder where
  hostname := some "vpn.example.com"
  addresses := some ["192.0.2.1:443", "[2001:db8::1]:443"]
  username := some "premium"
  password := some "s3cretPass"
  clientRandomPrefix := some "aabb"
  customSni := none
  hasIpv6 := some false
  skipVerification := none
  certificate := some [0x30, 0x00]
  upstreamProtocol := some .http3
  antiDpi := some true
  name := some ""
  dnsUpstreams := some ["tls://dns.example.invalid", ""]

def vpnConfig : DeepLinkConfig where
  hostname := "vpn.example.com"
  addresses := ["192.0.2.1:443", "[2001:db8::1]:443"]
  username := "premium"
  password := "s3cretPass"
  clientRandomPrefix := some "aabb"
  customSni := none
  hasIpv6 := false
  skipVerification := false
  certificate := some [0x30, 0x00]
  upstreamProtocol := .http3
  antiDpi := true
  name := some ""
  dnsUpstreams := ["tls://dns.example.invalid", ""]

theorem decode_encode_vpnConfig :
    vpnBuilder.build .rfc4648 = .ok vpnConfig ∧ ∃ uri, encode .rfc4648 vpnConfig = .ok uri ∧
      decode .rfc4648 uri = .ok vpnConfig.normalized := by
  have built : vpnBuilder.build .rfc4648 = .ok vpnConfig := by
    decide +kernel
  have fits : vpnConfig.Fits := by
    have every : ∀ entry ∈ vpnConfig.entries, entry.2.length < 2 ^ 62 := by
      decide +kernel
    exact every
  exact ⟨built, decode_encode_of_build .rfc4648 Crates.documented_rfc4648 vpnBuilder vpnConfig
    built fits⟩

/-!
## Entries with unknown tags

An entry whose tag the decoder does not know should make no difference wherever it
stands. The decoder looks at the lowest byte of the tag only.
-/

/-- The bytes are a sequence of entries. -/
inductive Entries : Bytes → Prop where
  | nil : Entries []
  | cons {bytes value rest : Bytes} {tag : Nat} (entry : IsEntry bytes tag value)
      (entries : Entries rest) : Entries (bytes ++ rest)

/-- Wherever an entry with the tag is inserted between entries, the payload is decoded as
without it. -/
def Ignored (crates : Crates) (tag : Nat) : Prop :=
  ∀ {front back bytes value : Bytes}, Entries front → IsEntry bytes tag value →
    decodeTlvPayload crates (front ++ (bytes ++ back)) = decodeTlvPayload crates (front ++ back)

variable (crates : Crates)

/-- The loop goes through the entries at the front first. -/
lemma decodeFields_append {front : Bytes} (entries : Entries front) (fields : Fields)
    (back : Bytes) :
    decodeFields crates fields (front ++ back) =
      decodeFields crates fields front >>= fun fields => decodeFields crates fields back := by
  induction entries generalizing fields with
  | nil =>
    rw [decodeFields_nil]
    rfl
  | cons entry _ ih =>
    rw [List.append_assoc, decodeFields_entry crates entry, decodeFields_entry crates entry,
      bind_assoc]
    congr 1
    funext fields
    exact ih fields

lemma ignored_of_lt {tag : Nat} (high : 13 < tag % 256) : Ignored crates tag := by
  intro front back bytes value entries entry
  have unknown : TlvTag.fromU8 (.ofNat tag) = none := by
    rw [TlvTag.fromU8_eq_none, UInt8.toNat_ofNat']
    exact high
  rw [decodeTlvPayload, decodeTlvPayload, decodeFields_append crates entries,
    decodeFields_append crates entries]
  congr 2
  funext fields
  rw [decodeFields_entry crates entry, unknown]
  rfl

/-! ## A tag that is mistaken for a known one -/

def shortConfig : DeepLinkConfig where
  hostname := "h"
  addresses := ["a"]
  username := "u"
  password := "p"
  clientRandomPrefix := none
  customSni := none
  hasIpv6 := true
  skipVerification := false
  certificate := none
  upstreamProtocol := .http2
  antiDpi := false
  name := none
  dnsUpstreams := []

def shortPayload : Bytes := shortConfig.entries.flatMap written

lemma shortConfig_fits : shortConfig.Fits := by
  have every : ∀ entry ∈ shortConfig.entries, entry.2.length < 2 ^ 62 := by
    decide +kernel
  exact every

lemma entries_written (fits : EntriesFit entries) : Entries (entries.flatMap written) := by
  induction entries with
  | nil => exact .nil
  | cons _ _ ih =>
    rw [EntriesFit, List.forall_mem_cons] at fits
    exact .cons (isEntry_written fits.1) (ih fits.2)

lemma decodeFields_shortPayload : decodeFields crates {} shortPayload = .ok shortConfig.fields := by
  rw [shortPayload, decodeFields_written shortConfig_fits]
  change DeepLinkConfig.readInto crates {} shortConfig.entries = _
  exact @DeepLinkConfig.read_addresses crates shortConfig _

lemma decodeTlvPayload_shortPayload : decodeTlvPayload crates shortPayload = .ok shortConfig := by
  rw [decodeTlvPayload, decodeFields_shortPayload]
  rfl

/-- What follows the short payload is read into its fields. -/
lemma decode_behind_shortPayload {bytes value : Bytes} {tag : Nat}
    (entry : IsEntry bytes tag value) :
    decodeTlvPayload crates (shortPayload ++ (bytes ++ [])) =
      onEntry crates shortConfig.fields (TlvTag.fromU8 (.ofNat tag)) value >>= finish := by
  have entries : Entries shortPayload := entries_written shortConfig_fits
  rw [decodeTlvPayload, decodeFields_append crates entries, decodeFields_shortPayload]
  change decodeFields crates shortConfig.fields (bytes ++ []) >>= finish = _
  rw [decodeFields_entry crates entry]
  simp only [decodeFields_nil]
  exact congrArg (· >>= finish) (bind_pure _)

/-- A value that no field but the certificate accepts. -/
def badValue : Bytes := [0xFF, 0xFF]

/-- The value changes what is decoded, whatever field it is taken for. -/
lemma onField_badValue (tag : TlvTag) :
    onField crates shortConfig.fields tag badValue >>= finish ≠ .ok shortConfig := by
  have text : decodeString badValue = .error (.invalidUtf8 badValue) := by
    decide +kernel
  have varint : decodeVarint badValue = .error ⟨.unexpectedEof, "truncated 8-byte varint"⟩ := by
    decide +kernel
  have strings : decodeStringArray badValue =
      .error (.io ⟨.unexpectedEof, "truncated 8-byte varint"⟩) := by
    rw [decodeStringArray, if_neg (by decide)]
    split
    · rename_i failed
      cases failed
      rfl
    · rename_i found
      cases found
  intro same
  cases tag with
  | certificate =>
    have read : onField crates shortConfig.fields .certificate badValue >>= finish =
        .ok { shortConfig with certificate := some badValue } := rfl
    rw [read] at same
    exact absurd same (by decide +kernel)
  | version => cases same
  | dnsUpstreams =>
    simp only [onField, strings] at same
    cases same
  | hasIpv6 | skipVerification | antiDpi | upstreamProtocol => cases same
  | _ => cases same

/-- Exactly the tags whose lowest byte is no known tag are ignored. -/
theorem ignored_iff {tag : Nat} (fits : tag < 2 ^ 62) : Ignored crates tag ↔ 13 < tag % 256 := by
  constructor
  · intro ignored
    by_contra low
    cases known : TlvTag.fromU8 (.ofNat tag) with
    | none =>
      rw [TlvTag.fromU8_eq_none] at known
      exact low known
    | some found =>
      have entry : IsEntry (Varint.minimal tag ++ Varint.minimal badValue.length ++ badValue) tag
          badValue :=
        ⟨_, _, Varint.encodes_minimal fits, Varint.encodes_minimal (by decide), rfl⟩
      have same := @ignored shortPayload [] _ _ (entries_written shortConfig_fits) entry
      rw [decode_behind_shortPayload crates entry, known, List.append_nil,
        decodeTlvPayload_shortPayload] at same
      exact onField_badValue crates found same
  · intro high
    exact ignored_of_lt crates high

theorem ignored_fourteen : 14 < 2 ^ 62 ∧ Ignored .rfc4648 14 := by
  have fits : 14 < 2 ^ 62 := by decide
  exact ⟨fits, (ignored_iff .rfc4648 fits).mpr (by decide)⟩

/-- An entry with the tag 257, which has the tag of the host name as its lowest byte. -/
def hostileEntry : Bytes := [0x41, 0x01, 0x01, 0x65]

theorem hostileEntry_changes_hostname :
    IsEntry hostileEntry 257 [0x65] ∧ decodeTlvPayload .rfc4648 shortPayload = .ok shortConfig ∧
      decodeTlvPayload .rfc4648 (shortPayload ++ (hostileEntry ++ [])) =
        .ok { shortConfig with hostname := "e" } := by
  have entry : IsEntry hostileEntry 257 [0x65] :=
    ⟨[0x41, 0x01], [0x01], ⟨1, by decide, by decide⟩, ⟨0, by decide, by decide⟩, rfl⟩
  refine ⟨entry, decodeTlvPayload_shortPayload .rfc4648, ?_⟩
  decide +kernel

/-!
## The builder and the deep link accept the same configurations

The builder, the encoder and the decoder each check a part of a configuration. They
agree but for a client random with a mask, which the deep link allows, and in which the
builder takes the slash for a bad digit.
-/

namespace DeepLinkConfig

/-- A builder that is given the fields of a configuration. -/
def builder (cfg : DeepLinkConfig) : DeepLinkConfigBuilder where
  hostname := some cfg.hostname
  addresses := some cfg.addresses
  username := some cfg.username
  password := some cfg.password
  clientRandomPrefix := cfg.clientRandomPrefix
  customSni := cfg.customSni
  hasIpv6 := some cfg.hasIpv6
  skipVerification := some cfg.skipVerification
  certificate := cfg.certificate
  upstreamProtocol := some cfg.upstreamProtocol
  antiDpi := some cfg.antiDpi
  name := cfg.name
  dnsUpstreams := some cfg.dnsUpstreams

/-- The configuration can be written as a link, and the link can be read. -/
def Transfers (crates : Crates) (cfg : DeepLinkConfig) : Prop :=
  ∃ uri read, encode crates cfg = .ok uri ∧ decode crates uri = .ok read

variable {crates : Crates} {cfg : DeepLinkConfig}

/-- The builder checks the required fields and the client random. -/
lemma build_builder_iff : cfg.builder.build crates = .ok cfg ↔
    cfg.Complete ∧ checkClientRandomPrefix crates cfg.clientRandomPrefix = .ok () := by
  constructor
  · exact DeepLinkConfigBuilder.of_build
  · rintro ⟨complete, checked⟩
    have valid := validate_eq_ok.mpr complete
    simp only [DeepLinkConfigBuilder.build, builder, checked, okOr, ok_bind,
      Option.getD_some, valid]
    rfl

/-- So do the encoder and the decoder together, but for the mask. -/
lemma transfers_iff (documented : crates.Documented) (fits : cfg.Fits) :
    cfg.Transfers crates ↔
      cfg.Complete ∧ acceptClientRandom crates cfg.clientRandomPrefix = .ok () := by
  constructor
  · rintro ⟨uri, read, written, reads⟩
    obtain ⟨payload, entries, -⟩ := bind_eq_ok.mp written
    obtain ⟨_, valid, -⟩ := bind_eq_ok.mp entries
    have complete := validate_eq_ok.mp valid
    rw [cfg.encode_eq complete fits] at written
    cases written
    rw [cfg.decode_link documented complete fits] at reads
    obtain ⟨_, accepted, -⟩ := bind_eq_ok.mp reads
    exact ⟨complete, accepted⟩
  · rintro ⟨complete, accepted⟩
    refine ⟨_, cfg.normalized, cfg.encode_eq complete fits, ?_⟩
    rw [cfg.decode_link documented complete fits, accepted]
    rfl

/-- A client random with a mask, both of which can be decoded. -/
def Masked (crates : Crates) (text : String) : Prop :=
  ∃ front mask, text = front ++ "/" ++ mask ∧ (∃ bytes, crates.hexDecode front = .ok bytes) ∧
    ∃ bytes, crates.hexDecode mask = .ok bytes

lemma splitMask_append {front : String} (plain : '/' ∉ front.toList) (mask : String) :
    splitMask (front ++ "/" ++ mask) = (front, mask) := by
  have taken : (front ++ "/" ++ mask).toList.takeWhile (· ≠ '/') = front.toList := by
    rw [String.toList_append, String.toList_append, append_assoc, takeWhile_append_of_pos]
    · simp
    · intro char mem
      exact decide_eq_true fun same => plain (same ▸ mem)
  simp only [splitMask, taken]
  simp

lemma checkHex_eq_ok {subject text : String} {value : Unit} :
    checkHex crates subject text = .ok value ↔ ∃ bytes, crates.hexDecode text = .ok bytes := by
  rw [checkHex]
  split
  · exact iff_of_true rfl ⟨_, ‹_›⟩
  · simp_all

/-- The decoder accepts a text with a slash exactly if it is a client random with a mask. -/
lemma checkClientRandom_eq_ok (documented : crates.Documented) {text : String}
    (slash : '/' ∈ text.toList) : checkClientRandom crates text = .ok () ↔ Masked crates text := by
  have masked {front mask : String} (plain : '/' ∉ front.toList) :
      checkClientRandom crates (front ++ "/" ++ mask) = .ok () ↔
        (∃ bytes, crates.hexDecode front = .ok bytes) ∧ ∃ bytes, crates.hexDecode mask = .ok bytes := by
    simp only [checkClientRandom, splitMask_append plain, bind_eq_ok, checkHex_eq_ok, exists_const]
  constructor
  · intro accepted
    obtain ⟨front, mask, split, plain⟩ := eq_append_cons_of_mem slash
    have same : text = .ofList front ++ "/" ++ .ofList mask := String.toList_injective (by simp [split])
    rw [same, masked (by simpa using plain)] at accepted
    exact ⟨_, _, same, accepted⟩
  · rintro ⟨front, mask, rfl, ⟨bytes, decoded⟩, maskDecoded⟩
    exact (masked (documented.hexDigits front bytes decoded)).mpr ⟨⟨bytes, decoded⟩, maskDecoded⟩

/-- The builder returns exactly the configurations that can be sent as a link, but for those
that are complete and have a client random with a mask. -/
theorem build_iff_transfers (documented : crates.Documented) (fits : cfg.Fits) :
    (cfg.builder.build crates = .ok cfg ↔ cfg.Transfers crates) ↔
      ¬(cfg.Complete ∧ ∃ text, cfg.clientRandomPrefix = some text ∧ Masked crates text) := by
  rw [build_builder_iff, transfers_iff documented fits]
  by_cases slash : ∃ text, cfg.clientRandomPrefix = some text ∧ '/' ∈ text.toList
  · obtain ⟨text, found, slash⟩ := slash
    have refused : checkClientRandomPrefix crates (some text) ≠ .ok () :=
      fun checked => plain_of_checked documented checked text rfl slash
    have present : text ≠ "" := by
      rintro rfl
      cases slash
    simp [found, refused, acceptClientRandom, present, checkClientRandom_eq_ok documented slash]
  · have plain : ∀ text, cfg.clientRandomPrefix = some text → '/' ∉ text.toList :=
      fun text found mem => slash ⟨text, found, mem⟩
    rw [acceptClientRandom_eq documented plain]
    refine iff_of_true Iff.rfl ?_
    rintro ⟨-, text, found, front, mask, rfl, -⟩
    exact plain _ found (by simp)

theorem build_iff_transfers_vpnConfig :
    vpnConfig.builder.build .rfc4648 = .ok vpnConfig ↔ vpnConfig.Transfers .rfc4648 := by
  have every : ∀ entry ∈ vpnConfig.entries, entry.2.length < 2 ^ 62 := by
    decide +kernel
  refine (build_iff_transfers Crates.documented_rfc4648 every).mpr ?_
  rintro ⟨-, text, found, front, mask, same, -⟩
  have slash : '/' ∈ "aabb".toList := by
    rw [Option.some.inj found, same]
    simp
  exact absurd slash (by decide)

/-- A client random with a mask. -/
def maskedConfig : DeepLinkConfig := { vpnConfig with clientRandomPrefix := some "aabb/ff0f" }

/-- It can be sent as a link, but the builder refuses it. -/
theorem not_build_iff_transfers_maskedConfig :
    ¬(maskedConfig.builder.build .rfc4648 = .ok maskedConfig ↔
      maskedConfig.Transfers .rfc4648) := by
  have every : ∀ entry ∈ maskedConfig.entries, entry.2.length < 2 ^ 62 := by
    decide +kernel
  intro agree
  have complete : maskedConfig.Complete := by
    constructor <;> decide
  have transfers := (transfers_iff Crates.documented_rfc4648 every).mpr ⟨complete, by decide +kernel⟩
  exact absurd (agree.mpr transfers) (by decide +kernel)

end DeepLinkConfig

end TrustTunnel.DeepLink
