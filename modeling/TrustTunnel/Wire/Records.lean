import TrustTunnel.Wire.Bytes

/-!
# Byte strings behind their length, and records up to a terminator

`counted` writes a byte string behind its length in a field of a given width, `readCounted`
reads one. A field that is too narrow holds the length modulo its range, so a reader takes
that many bytes and leaves the others to whatever is read next. A record is a type and a
counted value; `readRecords` reads records up to one of a given type.
-/

namespace TrustTunnel.Wire

open List

/-! ## Counted strings -/

/-- A byte string behind its length. -/
def counted (width : Nat) (value : Bytes) : Bytes := beBytes width value.length ++ value

/-- A counted string at the front of `bytes`, and what follows it. -/
def readCounted (width : Nat) (bytes : Bytes) : Option (Bytes × Bytes) :=
  let count := beNat (bytes.take width)
  let rest := bytes.drop width
  if width ≤ bytes.length ∧ count ≤ rest.length then some (rest.take count, rest.drop count)
  else none

lemma readCounted_counted (width : Nat) (value rest : Bytes) :
    readCounted width (counted width value ++ rest) =
      some (value.take (value.length % 256 ^ width),
        value.drop (value.length % 256 ^ width) ++ rest) := by
  have count : ((counted width value ++ rest).take width) = beBytes width value.length := by
    rw [counted, append_assoc, take_left' (length_beBytes ..)]
  have behind : ((counted width value ++ rest).drop width) = value ++ rest := by
    rw [counted, append_assoc, drop_left' (length_beBytes ..)]
  have within : value.length % 256 ^ width ≤ value.length := Nat.mod_le ..
  have room : width ≤ (counted width value ++ rest).length := by
    simp only [counted, length_append, length_beBytes]
    omega
  simp only [readCounted, count, behind, beNat_beBytes]
  rw [if_pos ⟨room, by rw [length_append]; omega⟩, take_append_of_le_length within,
    drop_append_of_le_length within]

variable {width : Nat} {value : Bytes}

/-- A string whose length fits into the field is read back. -/
lemma readCounted_of_lt (fits : value.length < 256 ^ width) (rest : Bytes) :
    readCounted width (counted width value ++ rest) = some (value, rest) := by
  rw [readCounted_counted, Nat.mod_eq_of_lt fits, take_length, drop_length, nil_append]

lemma take_mod_eq_self_iff :
    value.take (value.length % 256 ^ width) = value ↔ value.length < 256 ^ width := by
  constructor
  · intro same
    have length := congrArg List.length same
    rw [length_take] at length
    omega
  · intro fits
    rw [Nat.mod_eq_of_lt fits, take_length]

lemma length_of_readCounted {bytes value rest : Bytes}
    (read : readCounted width bytes = some (value, rest)) : rest.length ≤ bytes.length := by
  simp only [readCounted, Option.ite_none_right_eq_some, Option.some.injEq, Prod.mk.injEq] at read
  obtain ⟨_, _, rfl⟩ := read
  simp only [length_drop]
  omega

/-! ## Records -/

structure Record where
  type : UInt8
  value : Bytes
  deriving DecidableEq

namespace Record

def toBytes (width : Nat) (record : Record) : Bytes := record.type :: counted width record.value

/-- A record at the front of `bytes`, and what follows it. -/
def read (width : Nat) : Bytes → Option (Record × Bytes)
  | [] => none
  | type :: bytes => (readCounted width bytes).map fun (value, rest) => (⟨type, value⟩, rest)

variable {record : Record}

lemma read_toBytes (fits : record.value.length < 256 ^ width) (rest : Bytes) :
    read width (record.toBytes width ++ rest) = some (record, rest) := by
  rw [toBytes, cons_append, read, readCounted_of_lt fits, Option.map_some]

lemma length_of_read {bytes rest : Bytes} (found : read width bytes = some (record, rest)) :
    rest.length < bytes.length := by
  cases bytes with
  | nil => cases found
  | cons =>
    rw [read, Option.map_eq_some_iff] at found
    obtain ⟨⟨value, rest⟩, found, same⟩ := found
    cases same
    exact Nat.lt_succ_of_le (length_of_readCounted found)

end Record

/-- The records in front of the first one of the type `terminator`, that one, and what
follows it. -/
def readRecords (width : Nat) (terminator : UInt8) (bytes : Bytes) :
    Option (List Record × Record × Bytes) :=
  match _found : Record.read width bytes with
  | none => none
  | some (record, rest) =>
    if record.type = terminator then some ([], record, rest)
    else (readRecords width terminator rest).map fun (records, last, rest) =>
      (record :: records, last, rest)
termination_by bytes.length
decreasing_by exact Record.length_of_read _found

section ReadRecords

variable {width : Nat} {terminator : UInt8} {bytes rest : Bytes} {record : Record}

lemma readRecords_of_terminator (found : Record.read width bytes = some (record, rest))
    (ends : record.type = terminator) :
    readRecords width terminator bytes = some ([], record, rest) := by
  rw [readRecords]
  split
  · simp_all
  · simp_all

lemma readRecords_of_record (found : Record.read width bytes = some (record, rest))
    (continues : record.type ≠ terminator) :
    readRecords width terminator bytes =
      (readRecords width terminator rest).map fun (records, last, rest) =>
        (record :: records, last, rest) := by
  rw [readRecords]
  split
  · simp_all
  · simp_all

/-- Records that fit, none of them the terminator, are read back up to the terminator. -/
lemma readRecords_flatMap {records : List Record} {last : Record}
    (fit : ∀ record ∈ records, record.value.length < 256 ^ width)
    (continue' : ∀ record ∈ records, record.type ≠ terminator)
    (lastFits : last.value.length < 256 ^ width) (ends : last.type = terminator) (rest : Bytes) :
    readRecords width terminator
        (records.flatMap (Record.toBytes width) ++ (last.toBytes width ++ rest)) =
      some (records, last, rest) := by
  induction records with
  | nil => exact readRecords_of_terminator (Record.read_toBytes lastFits rest) ends
  | cons _ _ ih =>
    rw [forall_mem_cons] at fit continue'
    rw [flatMap_cons, append_assoc,
      readRecords_of_record (Record.read_toBytes fit.1 _) continue'.1, ih fit.2 continue'.2,
      Option.map_some]

end ReadRecords

end TrustTunnel.Wire
