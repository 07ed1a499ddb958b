import Mathlib.Data.List.AList
import TrustTunnel.Endpoint.Settings
import TrustTunnel.Text.Trim
import TrustTunnel.Toml.Strings

/-!
# The credentials file

Usernames and passwords are read from a TOML document. The loader does not take the value of
a string: it prints the item, as it is written in the document, and removes quotation marks
and the blanks at both ends.
-/

namespace TrustTunnel.Endpoint

open Toml Text List
open Http (trim isWhitespace)

/-! ## Loading -/

/-- An item of a table. Printing a string gives what is written behind the equals sign, up to
the end of the line. -/
inductive Item where
  | string (written : WrittenString)
  | integer (value : Int64) (printed : String)
  | other (printed : String)

namespace Item

def toString : Item → String
  | string written => .ofList written.text
  | integer _ printed => printed
  | other printed => printed

def asInteger : Item → Option Int64
  | integer value _ => some value
  | _ => none

end Item

abbrev TomlTable := AList fun _ : String => Item

/-- What is read of a document: the tables of the array `client`, if it is one. -/
structure Document where
  client : Option (List TomlTable)

inductive DeserializeError where
  | invalidValue (unexpected expected : String)
  | custom (msg : String)
  /-- Indexing a table by a key that it does not have. -/
  | panic (fault : Fault)

/-- The file system and the TOML parser. -/
structure Files where
  validateFilePath : String → Except String Unit
  readToString : String → Except String String
  parse : String → Except String Document

namespace Credentials

def demangle (text : List Char) : List Char := trim (text.filter (· ≠ quotationMark))

def demangleTomlString (text : String) : String := .ofList (demangle text.toList)

def deserializeFilePath (files : Files) (path : String) : Except DeserializeError String := do
  (files.validateFilePath path).mapError fun error =>
    .invalidValue ("path=" ++ path ++ " error=" ++ error) "a path to an existent accessible file"
  return path

/-- The document of the credentials file. -/
def openDocument (files : Files) (path : String) : Except DeserializeError Document := do
  let path ← deserializeFilePath files path
  let content ← (files.readToString path).mapError fun error =>
    .invalidValue ("Couldn't read file: path=" ++ path ++ " error=" ++ error) "A readable file"
  (files.parse content).mapError fun error =>
    .invalidValue ("Couldn't parse file: path=" ++ path ++ " error=" ++ error)
      "A TOML-formatted file"

/-- `x[key]`. -/
def index (table : TomlTable) (key : String) : Except DeserializeError Item :=
  match table.lookup key with
  | some item => .ok item
  | none => .error (.panic .unwrap)

/-- A limit that is no unsigned 32-bit integer is left out. -/
def connectionLimit (table : TomlTable) (key : String) : Option UInt32 :=
  ((table.lookup key).bind Item.asInteger).bind fun value =>
    if 0 ≤ value.toInt ∧ value.toInt < 2 ^ 32 then some (.ofNat value.toInt.toNat) else none

/-- The client of the table with an index, unless its username or password is empty. -/
def makeClient (idx : Nat) (table : TomlTable) (username password : String) :
    Except DeserializeError Authentication.Client := do
  ensure (username.isEmpty = false)
    (.custom ("Client #" ++ toString (idx + 1) ++ ": username cannot be empty"))
  ensure (password.isEmpty = false)
    (.custom ("Client #" ++ toString (idx + 1) ++ ": password cannot be empty"))
  return {
    username := username
    password := password
    maxHttp2Conns := connectionLimit table "max_http2_conns"
    maxHttp3Conns := connectionLimit table "max_http3_conns"
  }

def loadClient (idx : Nat) (table : TomlTable) : Except DeserializeError Authentication.Client := do
  let username ← index table "username"
  let password ← index table "password"
  makeClient idx table (demangleTomlString username.toString) (demangleTomlString password.toString)

def loadClients (idx : Nat) : List TomlTable → Except DeserializeError (List Authentication.Client)
  | [] => .ok []
  | table :: tables => do
      let client ← loadClient idx table
      let clients ← loadClients (idx + 1) tables
      return client :: clients

def deserializeClients (files : Files) (path : String) :
    Except DeserializeError (List Authentication.Client) := do
  let document ← openDocument files path
  match document.client with
  | some tables => loadClients 0 tables
  | none => .error (.invalidValue "Not an array of clients" "An array of clients")

/-! ## What is left of a string -/

/-- Characters that the loader never removes. -/
def isSolid (char : Char) : Bool := !isWhitespace char && char != quotationMark

variable {char : Char}

lemma isSolid_of_isWhitespace (white : isWhitespace char = true) : isSolid char = false := by
  rw [isSolid, white]
  rfl

lemma countP_demangle (text : List Char) :
    (demangle text).countP isSolid = text.countP isSolid := by
  refine (countP_strip (fun _ => isSolid_of_isWhitespace) _).trans ?_
  rw [countP_filter]
  refine countP_congr fun char _ => ?_
  simp [isSolid]

variable {text : List Char}

lemma demangle_eq_nil_iff : demangle text = [] ↔ text.countP isSolid = 0 := by
  refine strip_eq_nil_iff.trans ?_
  rw [countP_eq_zero]
  refine forall_congr' fun char => ?_
  rw [mem_filter, and_imp]
  rw [isSolid, Bool.and_eq_true, Bool.not_eq_true', bne_iff_ne]
  cases isWhitespace char with
  | true | false => simp

lemma mem_of_mem_demangle (mem : char ∈ demangle text) : char ≠ quotationMark := by
  obtain ⟨front, back, split, -, -⟩ := exists_strip _ (text.filter _)
  have kept : char ∈ text.filter (· ≠ quotationMark) := by
    rw [split]
    exact mem_append_right _ (mem_append_left _ mem)
  exact of_decide_eq_true (mem_filter.mp kept).2

/-- A piece that the loader leaves alone. -/
def isVerbatim : Piece → Bool
  | .plain char => char != quotationMark
  | .newline carriage => !carriage
  | .escaped _ => false
  | .continuation _ => false

/-- A piece of which the loader leaves nothing, if nothing else is left. -/
def isVoid : Piece → Bool
  | .plain char => isWhitespace char || char == quotationMark
  | .newline _ => true
  | .escaped _ => false
  | .continuation _ => false

/-- A string that the loader reads as it is. -/
structure Verbatim (written : WrittenString) : Prop where
  comment : written.comment = none
  basic : written.string.style.isBasic = true
  pieces : ∀ piece ∈ written.string.pieces, isVerbatim piece = true
  unpadded : Unpadded isWhitespace written.value

/-- A string of which the loader leaves nothing. -/
structure Void (written : WrittenString) : Prop where
  comment : written.comment = none
  basic : written.string.style.isBasic = true
  pieces : ∀ piece ∈ written.string.pieces, isVoid piece = true

lemma countP_letters (escape : Escape) :
    [escape.char].countP isSolid ≤ escape.letters.countP isSolid := by
  have scalar (first char : Char) (digits : List Char) (solid : isSolid first = true) :
      [char].countP isSolid ≤ (first :: digits).countP isSolid := by
    have one : [char].countP isSolid ≤ 1 := countP_le_length
    rw [countP_cons_of_pos solid]
    omega
  cases escape with
  | scalar | longScalar => exact scalar _ _ _ (by decide)
  | _ => decide

/-- What is written for a piece has no fewer solid characters than its value, and more if the
piece does not stand for itself. -/
lemma countP_piece (piece : Piece) :
    piece.value.countP isSolid + (if piece.isRaw then 0 else 1) ≤ piece.text.countP isSolid := by
  have solid : isSolid backslash = true := by decide
  cases piece with
  | plain => exact le_refl _
  | newline carriage =>
    cases carriage with
    | true | false => decide
  | escaped escape =>
    have letters := countP_letters escape
    rw [Piece.text, countP_cons_of_pos solid]
    exact Nat.add_le_add_right letters 1
  | continuation =>
    rw [Piece.text, countP_cons_of_pos solid]
    exact Nat.add_le_add_right (Nat.zero_le _) 1

lemma countP_pieces (pieces : List Piece) :
    (pieces.flatMap Piece.value).countP isSolid ≤ (pieces.flatMap Piece.text).countP isSolid := by
  induction pieces with
  | nil => exact le_refl _
  | cons piece =>
    have first := countP_piece piece
    rw [flatMap_cons, flatMap_cons, countP_append, countP_append]
    omega

variable {pieces : List Piece} {written : WrittenString} {idx : Nat}

/-- If there are no more solid characters than in the value, every piece stands for itself. -/
lemma isRaw_of_countP
    (few : (pieces.flatMap Piece.text).countP isSolid ≤ (pieces.flatMap Piece.value).countP isSolid)
      :
    ∀ piece ∈ pieces, piece.isRaw = true := by
  induction pieces with
  | nil => exact forall_mem_nil _
  | cons piece pieces ih =>
    have first := countP_piece piece
    have rest := countP_pieces pieces
    rw [flatMap_cons, flatMap_cons, countP_append, countP_append] at few
    refine forall_mem_cons.mpr ⟨?_, ih (by omega)⟩
    by_contra different
    rw [if_neg different] at first
    omega

lemma isWhitespace_of_isBlank (blank : isBlank char = true) : isWhitespace char = true := by
  rw [isBlank, Bool.or_eq_true, beq_iff_eq, beq_iff_eq] at blank
  rcases blank with rfl | rfl
  · decide
  · decide

lemma countP_eq_zero_of_white (white : ∀ char ∈ text, isWhitespace char = true) :
    text.countP isSolid = 0 := by
  refine countP_eq_zero.mpr fun char mem => ?_
  rw [isSolid_of_isWhitespace (white char mem)]
  exact Bool.false_ne_true

lemma isWhitespace_newlineText (carriage : Bool) :
    ∀ char ∈ newlineText carriage, isWhitespace char = true := by
  cases carriage with
  | true | false => exact all_eq_true.mp rfl

lemma isWhitespace_leading (leading : Option Bool) :
    ∀ char ∈ leading.elim [] newlineText, isWhitespace char = true := by
  cases leading with
  | none => exact forall_mem_nil _
  | some carriage => exact isWhitespace_newlineText _

lemma countP_delimiter (style : Style) :
    style.delimiter.countP isSolid = 0 ↔ style.isBasic = true := by
  cases style with
  | basic | multiLineBasic | literal | multiLineLiteral => decide

lemma countP_comment (comment : Option (List Char)) :
    (comment.elim [] ('#' :: ·)).countP isSolid = 0 ↔ comment = none := by
  cases comment with
  | none => decide
  | some => simp [show isSolid '#' = true by decide]

/-- The solid characters of a string are those of its pieces, its delimiters and the comment. -/
lemma countP_written (written : WrittenString) :
    written.text.countP isSolid =
      written.string.style.delimiter.countP isSolid +
        (written.string.pieces.flatMap Piece.text).countP isSolid +
        written.string.style.delimiter.countP isSolid +
        (written.comment.elim [] ('#' :: ·)).countP isSolid := by
  have before := countP_eq_zero_of_white fun char mem =>
    isWhitespace_of_isBlank (written.blankBefore char mem)
  have after := countP_eq_zero_of_white fun char mem =>
    isWhitespace_of_isBlank (written.blankAfter char mem)
  have leading := countP_eq_zero_of_white (isWhitespace_leading written.string.leading)
  simp only [WrittenString.text, TomlString.text, countP_append, before, after, leading]
  omega

lemma countP_piece_eq_zero (piece : Piece) :
    piece.text.countP isSolid = 0 ↔ isVoid piece = true := by
  have solid : isSolid backslash = true := by decide
  cases piece with
  | plain char =>
    rw [Piece.text, isVoid, countP_eq_zero, forall_mem_singleton, isSolid]
    cases isWhitespace char with
    | true | false => simp
  | newline carriage => exact iff_of_true (countP_eq_zero_of_white (isWhitespace_newlineText _)) rfl
  | escaped | continuation =>
    rw [Piece.text, countP_cons_of_pos solid]
    exact iff_of_false (Nat.succ_ne_zero _) Bool.false_ne_true

lemma countP_pieces_eq_zero (pieces : List Piece) :
    (pieces.flatMap Piece.text).countP isSolid = 0 ↔ ∀ piece ∈ pieces, isVoid piece = true := by
  induction pieces with
  | nil => exact iff_of_true rfl (forall_mem_nil _)
  | cons _ _ ih =>
    rw [flatMap_cons, countP_append, Nat.add_eq_zero_iff, countP_piece_eq_zero, ih, forall_mem_cons]

/-- The loader leaves nothing exactly of the void strings. -/
lemma demangle_text_eq_nil_iff (written : WrittenString) :
    demangle written.text = [] ↔ Void written := by
  rw [demangle_eq_nil_iff, countP_written]
  constructor
  · intro none
    refine ⟨(countP_comment _).mp (by omega), (countP_delimiter _).mp (by omega),
      (countP_pieces_eq_zero _).mp (by omega)⟩
  · intro void
    rw [(countP_comment _).mpr void.comment, (countP_delimiter _).mpr void.basic,
      (countP_pieces_eq_zero _).mpr void.pieces]

lemma filter_delimiter {style : Style} (basic : style.isBasic = true) :
    style.delimiter.filter (· ≠ quotationMark) = [] := by
  rw [Style.delimiter, Style.quote, if_pos basic, filter_eq_nil_iff]
  intro char mem
  rw [eq_of_mem_replicate mem]
  decide

/-- Of a string of a basic style and no comment behind it, the loader sees the pieces. -/
lemma demangle_of_basic (comment : written.comment = none)
    (basic : written.string.style.isBasic = true) :
    demangle written.text = demangle (written.string.pieces.flatMap Piece.text) := by
  have white {text : List Char} (all : ∀ char ∈ text, isWhitespace char = true) :
      ∀ char ∈ text.filter (· ≠ quotationMark), isWhitespace char = true :=
    fun char mem => all char (mem_filter.mp mem).1
  have before := white fun char mem => isWhitespace_of_isBlank (written.blankBefore char mem)
  have after := white fun char mem => isWhitespace_of_isBlank (written.blankAfter char mem)
  have leading := white (isWhitespace_leading written.string.leading)
  have parts : written.text.filter (· ≠ quotationMark) =
      written.before.filter (· ≠ quotationMark) ++
        (((written.string.leading.elim [] newlineText).filter (· ≠ quotationMark) ++
          (written.string.pieces.flatMap Piece.text).filter (· ≠ quotationMark)) ++
        written.after.filter (· ≠ quotationMark)) := by
    simp only [WrittenString.text, TomlString.text, filter_append, filter_delimiter basic,
      comment, Option.elim_none, nil_append, append_nil, append_assoc]
  refine (congrArg (strip _) parts).trans ?_
  rw [strip_append_left before, strip_append_right after, strip_append_left leading]
  rfl

lemma text_of_isVerbatim (verbatim : ∀ piece ∈ pieces, isVerbatim piece = true) :
    pieces.flatMap Piece.text = pieces.flatMap Piece.value := by
  refine flatMap_congr fun piece mem => ?_
  have stands := verbatim piece mem
  cases piece with
  | plain => rfl
  | newline carriage =>
    cases carriage with
    | true => cases stands
    | false => rfl
  | escaped | continuation => cases stands

lemma isVerbatim_iff {piece : Piece} :
    isVerbatim piece = true ↔
      piece.isRaw = true ∧ piece ≠ .newline true ∧ piece ≠ .plain quotationMark := by
  cases piece with
  | plain | newline | escaped | continuation => simp [isVerbatim, Piece.isRaw]

/-- Pieces that stand for themselves have quotation marks only as pieces of their own. -/
lemma filter_pieces (raw : ∀ piece ∈ pieces, piece.isRaw = true)
    (unquoted : ∀ piece ∈ pieces, piece ≠ .plain quotationMark) :
    (pieces.flatMap Piece.text).filter (· ≠ quotationMark) = pieces.flatMap Piece.text := by
  refine filter_eq_self.mpr fun char mem => decide_eq_true ?_
  obtain ⟨piece, listed, inside⟩ := mem_flatMap.mp mem
  have stands := raw piece listed
  cases piece with
  | plain =>
    rw [mem_singleton.mp inside]
    rintro rfl
    exact unquoted _ listed rfl
  | newline carriage =>
    rintro rfl
    have white := isWhitespace_newlineText _ _ inside
    exact absurd white (by decide)
  | escaped | continuation => cases stands

lemma demangle_of_verbatim (verbatim : Verbatim written) :
    demangle written.text = written.value := by
  have raw piece listed := (isVerbatim_iff.mp (verbatim.pieces piece listed)).1
  have unquoted piece listed := (isVerbatim_iff.mp (verbatim.pieces piece listed)).2.2
  rw [demangle_of_basic verbatim.comment verbatim.basic, demangle, filter_pieces raw unquoted,
    text_of_isVerbatim verbatim.pieces]
  exact strip_of_unpadded verbatim.unpadded

/-- If the value of pieces that stand for themselves is not padded, neither is their text. -/
lemma unpadded_text (raw : ∀ piece ∈ pieces, piece.isRaw = true)
    (unpadded : Unpadded isWhitespace (pieces.flatMap Piece.value)) :
    Unpadded isWhitespace (pieces.flatMap Piece.text) where
  first := by
    cases pieces with
    | nil => exact unpadded.first
    | cons piece =>
      have stands := raw piece mem_cons_self
      cases piece with
      | plain => exact unpadded.first
      | newline => exact absurd (unpadded.first _ rfl) (by decide)
      | escaped | continuation => cases stands
  last := by
    rcases eq_nil_or_concat' pieces with rfl | ⟨front, piece, rfl⟩
    · exact unpadded.last
    · have stands := raw piece (mem_append_right _ mem_cons_self)
      have last := unpadded.last
      rw [flatMap_append, getLast?_append] at last ⊢
      cases piece with
      | plain => exact last
      | newline => exact absurd (last _ rfl) (by decide)
      | escaped | continuation => cases stands

/-- If the text of pieces that stand for themselves is their value, they have no carriage
returns. -/
lemma ne_carriage_of_text (raw : ∀ piece ∈ pieces, piece.isRaw = true)
    (same : pieces.flatMap Piece.text = pieces.flatMap Piece.value) :
    ∀ piece ∈ pieces, piece ≠ .newline true := by
  induction pieces with
  | nil => exact forall_mem_nil _
  | cons piece _ ih =>
    rw [forall_mem_cons] at raw ⊢
    cases piece with
    | plain => exact ⟨Piece.noConfusion, ih raw.2 (List.cons.inj same).2⟩
    | newline carriage =>
      cases carriage with
      | true => exact absurd (List.cons.inj same).1 (by decide)
      | false =>
        refine ⟨fun carriage => ?_, ih raw.2 (List.cons.inj same).2⟩
        cases carriage
    | escaped | continuation => cases raw.1

/-- The loader gets the value exactly of the verbatim strings. -/
lemma demangle_text_eq_value_iff (written : WrittenString) :
    demangle written.text = written.value ↔ Verbatim written := by
  refine ⟨fun same => ?_, demangle_of_verbatim⟩
  -- no solid character is removed, so there is room for none but those of the value
  have solid : written.text.countP isSolid = written.value.countP isSolid := by
    rw [← same, countP_demangle]
  have fewer := countP_pieces written.string.pieces
  rw [countP_written, WrittenString.value, TomlString.value] at solid
  have comment := (countP_comment written.comment).mp (by omega)
  have basic := (countP_delimiter written.string.style).mp (by omega)
  have raw : ∀ piece ∈ written.string.pieces, piece.isRaw = true := isRaw_of_countP (by omega)
  have unquoted : ∀ piece ∈ written.string.pieces, piece ≠ .plain quotationMark := by
    rintro piece listed rfl
    have mem : quotationMark ∈ written.value := mem_flatMap.mpr ⟨_, listed, mem_singleton_self _⟩
    rw [← same] at mem
    exact mem_of_mem_demangle mem rfl
  have unpadded : Unpadded isWhitespace written.value := by
    rw [← same]
    exact unpadded_strip isWhitespace _
  have unchanged : written.string.pieces.flatMap Piece.text = written.value := by
    rw [demangle_of_basic comment basic, demangle, filter_pieces raw unquoted] at same
    exact (strip_of_unpadded (unpadded_text raw unpadded)).symm.trans same
  refine ⟨comment, basic, fun piece listed => ?_, unpadded⟩
  exact isVerbatim_iff.mpr ⟨raw piece listed, ne_carriage_of_text raw unchanged piece listed,
    unquoted piece listed⟩

/-! ## Files -/

/-- A table of a client whose username and password are strings. -/
structure ClientTable where
  table : TomlTable
  username : WrittenString
  password : WrittenString
  hasUsername : table.lookup "username" = some (.string username)
  hasPassword : table.lookup "password" = some (.string password)

namespace ClientTable

/-- The client that the loader makes of the table. -/
def client (self : ClientTable) : Authentication.Client where
  username := .ofList (demangle self.username.text)
  password := .ofList (demangle self.password.text)
  maxHttp2Conns := connectionLimit self.table "max_http2_conns"
  maxHttp3Conns := connectionLimit self.table "max_http3_conns"

end ClientTable

lemma isEmpty_demangle (written : WrittenString) :
    (String.ofList (demangle written.text)).isEmpty = false ↔ ¬Void written := by
  rw [← demangle_text_eq_nil_iff, ← Bool.not_eq_true, String.isEmpty_iff, String.ofList_inj]

/-- A client is loaded if something is left of its username and of its password. -/
lemma loadClient_eq_ok {entry : ClientTable} {client : Authentication.Client} :
    loadClient idx entry.table = .ok client ↔
      (¬Void entry.username ∧ ¬Void entry.password) ∧ client = entry.client := by
  have username : index entry.table "username" = .ok (.string entry.username) := by
    rw [index, entry.hasUsername]
  have password : index entry.table "password" = .ok (.string entry.password) := by
    rw [index, entry.hasPassword]
  have makes : loadClient idx entry.table =
      makeClient idx entry.table (.ofList (demangle entry.username.text))
        (.ofList (demangle entry.password.text)) := by
    rw [loadClient, username, password]
    simp only [ok_bind, Item.toString, demangleTomlString, String.toList_ofList]
  rw [← isEmpty_demangle, ← isEmpty_demangle, makes, makeClient, bind_eq_ok]
  constructor
  · rintro ⟨_, named, rest⟩
    obtain ⟨_, secret, done⟩ := bind_eq_ok.mp rest
    cases done
    exact ⟨⟨ensure_eq_ok.mp named, ensure_eq_ok.mp secret⟩, rfl⟩
  · rintro ⟨⟨named, secret⟩, rfl⟩
    exact ⟨(), ensure_eq_ok.mpr named, bind_eq_ok.mpr ⟨(), ensure_eq_ok.mpr secret, rfl⟩⟩

lemma loadClients_eq_ok {entries : List ClientTable} {clients : List Authentication.Client} :
    loadClients idx (entries.map ClientTable.table) = .ok clients ↔
      (∀ entry ∈ entries, ¬Void entry.username ∧ ¬Void entry.password) ∧
        clients = entries.map ClientTable.client := by
  induction entries generalizing idx clients with
  | nil =>
    rw [map_nil, loadClients, Except.ok.injEq]
    exact ⟨fun same => ⟨forall_mem_nil _, same.symm⟩, fun same => same.2.symm⟩
  | cons _ _ ih =>
    rw [map_cons, loadClients]
    simp only [bind_eq_ok, loadClient_eq_ok, ih, forall_mem_cons, map_cons]
    constructor
    · rintro ⟨_, ⟨first, rfl⟩, _, ⟨rest, rfl⟩, done⟩
      cases done
      exact ⟨⟨first, rest⟩, rfl⟩
    · rintro ⟨⟨first, rest⟩, rfl⟩
      exact ⟨_, ⟨first, rfl⟩, _, ⟨rest, rfl⟩, rfl⟩

/-- Every client that is loaded has the username and the password that are written. -/
def LoadsValues (files : Files) (path : String) (entries : List ClientTable) : Prop :=
  ∀ clients, deserializeClients files path = .ok clients →
    (clients.map fun client => (client.username, client.password)) = entries.map fun entry =>
        (String.ofList entry.username.value, String.ofList entry.password.value)

/-- The clients of a file are loaded with the values that are written exactly if all of them
are verbatim strings, or if one is void and nothing is loaded. -/
theorem loadsValues_iff {files : Files} {path : String} {document : Document}
    {entries : List ClientTable} (opens : openDocument files path = .ok document)
    (array : document.client = some (entries.map ClientTable.table)) :
    LoadsValues files path entries ↔
      (∃ entry ∈ entries, Void entry.username ∨ Void entry.password) ∨
        ∀ entry ∈ entries, Verbatim entry.username ∧ Verbatim entry.password := by
  have loads : deserializeClients files path = loadClients 0 (entries.map ClientTable.table) := by
    rw [deserializeClients, opens]
    simp only [ok_bind, array]
  have values : ((entries.map ClientTable.client).map fun client =>
      (client.username, client.password)) = (entries.map fun entry =>
        (String.ofList entry.username.value, String.ofList entry.password.value)) ↔
      ∀ entry ∈ entries, Verbatim entry.username ∧ Verbatim entry.password := by
    rw [map_map, map_inj_left]
    refine forall₂_congr fun entry _ => ?_
    rw [← demangle_text_eq_value_iff, ← demangle_text_eq_value_iff, ← String.ofList_inj,
      ← String.ofList_inj]
    exact Prod.mk.injEq _ _ _ _ ▸ Iff.rfl
  rw [LoadsValues, loads]
  by_cases void : ∃ entry ∈ entries, Void entry.username ∨ Void entry.password
  · refine iff_of_true (fun clients loaded => ?_) (.inl void)
    obtain ⟨entry, listed, empty⟩ := void
    obtain ⟨named, secret⟩ := (loadClients_eq_ok.mp loaded).1 entry listed
    exact (empty.elim named secret).elim
  · have left : ∀ entry ∈ entries, ¬Void entry.username ∧ ¬Void entry.password :=
      fun entry listed => not_or.mp fun empty => void ⟨entry, listed, empty⟩
    rw [or_iff_right void, ← values]
    constructor
    · intro same
      exact same _ (loadClients_eq_ok.mpr ⟨left, rfl⟩)
    · rintro same _ loaded
      rw [(loadClients_eq_ok.mp loaded).2]
      exact same

def clientTable (username password : WrittenString) : ClientTable where
  table := (AList.insert "password" (.string password) ∅).insert "username" (.string username)
  username := username
  password := password
  hasUsername := AList.lookup_insert _
  hasPassword := (AList.lookup_insert_ne (by decide)).trans (AList.lookup_insert _)

/-- A file with one client. -/
def fileOf (entry : ClientTable) : Files :=
  ⟨fun _ => .ok (), fun _ => .ok "", fun _ => .ok ⟨some [entry.table]⟩⟩

/-- A basic string. -/
def aliceBasic : WrittenString where
  before := [' ']
  string := ⟨.basic, none, ['a', 'l', 'i', 'c', 'e'].map .plain, by decide, by decide,
    fun _ => rfl, fun _ => rfl⟩
  after := []
  comment := none
  blankBefore := List.all_eq_true.mp rfl
  blankAfter := List.all_eq_true.mp rfl

theorem loadsValues_basic :
    LoadsValues (fileOf (clientTable aliceBasic aliceBasic)) "credentials.toml"
      [clientTable aliceBasic aliceBasic] := by
  have value : aliceBasic.value = ['a', 'l', 'i', 'c', 'e'] := rfl
  have unpadded : Unpadded isWhitespace aliceBasic.value := by
    rw [value]
    constructor
    · rintro _ ⟨⟩
      rfl
    · rintro _ ⟨⟩
      rfl
  have verbatim : Verbatim aliceBasic := ⟨rfl, rfl, by decide, unpadded⟩
  refine (loadsValues_iff rfl rfl).mpr (.inr ?_)
  exact forall_mem_singleton.mpr ⟨verbatim, verbatim⟩

/-- The same text as a literal string. -/
def aliceLiteral : WrittenString where
  before := [' ']
  string := ⟨.literal, none, ['a', 'l', 'i', 'c', 'e'].map .plain, by decide, by decide,
    fun _ => rfl, fun _ => rfl⟩
  after := []
  comment := none
  blankBefore := List.all_eq_true.mp rfl
  blankAfter := List.all_eq_true.mp rfl

/-- An escaped quotation mark in the string, and a comment behind it. -/
def secretCommented : WrittenString where
  before := [' ']
  string := ⟨.basic, none, [.plain 'p', .escaped .quotationMark, .plain 'w'], by decide, by decide,
    fun _ => rfl, fun _ => rfl⟩
  after := [' ']
  comment := some [' ', 'o', 'l', 'd']
  blankBefore := List.all_eq_true.mp rfl
  blankAfter := List.all_eq_true.mp rfl

/-- The username keeps its delimiters, the password loses a quotation mark and gets the
comment. -/
theorem not_loadsValues_literal :
    ¬LoadsValues (fileOf (clientTable aliceLiteral secretCommented)) "credentials.toml"
        [clientTable aliceLiteral secretCommented] ∧
      (deserializeClients (fileOf (clientTable aliceLiteral secretCommented))
        "credentials.toml").toOption.map (fun clients => clients.map fun client =>
          (client.username, client.password)) = some [("'alice'", "p\\w # old")] := by
  have loaded : (deserializeClients (fileOf (clientTable aliceLiteral secretCommented))
      "credentials.toml").toOption.map (fun clients => clients.map fun client =>
        (client.username, client.password)) = some [("'alice'", "p\\w # old")] := by
    decide +kernel
  refine ⟨fun loads => ?_, loaded⟩
  cases result : deserializeClients (fileOf (clientTable aliceLiteral secretCommented))
      "credentials.toml" with
  | error error =>
    rw [result] at loaded
    cases loaded
  | ok clients =>
    rw [result] at loaded
    have values := loads clients result
    rw [Except.toOption, Option.map_some, values] at loaded
    exact absurd loaded (by decide +kernel)

end Credentials

end TrustTunnel.Endpoint
