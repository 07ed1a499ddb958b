import Mathlib.Data.List.TakeWhile
import Mathlib.Logic.Function.Basic
import TrustTunnel.Table.Lru
import TrustTunnel.Table.OrderedSet
import TrustTunnel.Transition.Trace
import TrustTunnel.Wire.Bytes

/-!
# The cache of TLS sessions

`net/src/utils.cpp`: sessions are kept for the host name and the transport they were made for,
the latest one first. The cache can be written to a directory, one file for a session, and
read from there again. The name of a file has the position of the host in the cache, the
position of the session among those of its host, and the key of the host.
-/

namespace TrustTunnel.Client.SessionCache

open Wire Table

/-- The text of a key or of a file name. -/
abbrev Text := List Char

/-! ## Sessions -/

/-- `SSL_SESSION`: the time of its creation and its lifetime in seconds, and what it holds. -/
structure SslSession where
  time : UInt64
  timeout : UInt32
  ticket : Bytes
  deriving DecidableEq

/-- `SESSION_LIFETIME`, in seconds. -/
def sessionLifetime : Nat := 24 * 60 * 60

/-- `check_session_timings`, at a time in nanoseconds. -/
def checkSessionTimings (now : Nat) (session : SslSession) : Bool :=
  if now > (session.time.toNat + sessionLifetime) * 1000000000 then false
  else now < (session.time.toNat + session.timeout.toNat) * 1000000000

/-- `SessionAccumulator`. -/
abbrev SessionAccumulator := List SslSession

namespace SessionAccumulator

/-- `DEFAULT_MAX_SIZE`. -/
def defaultMaxSize : Nat := 9

def insert (session : SslSession) (list : SessionAccumulator) : SessionAccumulator :=
  session :: if list.length ≥ defaultMaxSize ∧ list ≠ [] then list.dropLast else list

def pop (now : Nat) : SessionAccumulator → Option SslSession × SessionAccumulator
  | [] => (none, [])
  | session :: list =>
    if checkSessionTimings now session then (some session, list) else pop now list

end SessionAccumulator

/-! ## The cache -/

/-- What the cache takes from libraries. -/
structure Libraries where
  sha256 : Bytes → Vector UInt8 32
  pemWrite : SslSession → Bytes
  pemRead : Bytes → Option SslSession
  /-- The number of hosts that `LruCache` holds. -/
  capacity : Nat
  read_write : ∀ session, pemRead (pemWrite session) = some session

/-- `g_session_cache`. -/
abbrev Cache := Lru Text SessionAccumulator

/-- A digit of `hex`. -/
def hexDigit (value : UInt8) : Char := "0123456789ABCDEF".toList.getD value.toNat '0'

def hexByte (byte : UInt8) : Text := [hexDigit (byte >>> 4), hexDigit (byte &&& 0x0f)]

variable (libs : Libraries)

def sessionCacheKey (sni : Bytes) (quic : Bool) : Text :=
  (libs.sha256 sni).toList.flatMap hexByte ++ [if quic then 'Q' else 'T']

/-- `cache_session`, with what `SSL_get_servername` returns. -/
def cacheSession (cache : Cache) (hostname : Option Bytes) (session : SslSession) (quic : Bool) :
    Cache :=
  match hostname with
  | none => cache
  | some hostname =>
    let key := sessionCacheKey libs hostname quic
    match cache.get key with
    | some accum => cache.modify key (accum.insert session)
    | none => cache.insert libs.capacity key (SessionAccumulator.insert session [])

def popSessionFromCache (cache : Cache) (sni : Bytes) (quic : Bool) (now : Nat) :
    Option SslSession × Cache :=
  let key := sessionCacheKey libs sni quic
  match cache.get key with
  | none => (none, cache)
  | some accum =>
    let popped := accum.pop now
    if popped.2.length = 0 then (popped.1, cache.erase key)
    else (popped.1, cache.modify key popped.2)

/-! ## File names -/

/-- `FILE_PREFIX`. -/
def fileStart : Text := "cache_".toList

/-- `INDEX_DELIMETER`. -/
def indexDelimeter : Char := '_'

/-- The name that `save_ssl_cache` gives a file. -/
def fileName (keyIndex sessionIndex : Nat) (cacheKey : Text) : Text :=
  fileStart ++ (Nat.toDigits 10 keyIndex ++ indexDelimeter ::
    (Nat.toDigits 10 sessionIndex ++ indexDelimeter :: cacheKey))

structure FileNameEntry where
  index : Nat
  sessionIndex : Nat
  key : Text
  deriving DecidableEq

/-- What `parse_filename` does with a name. A view is shortened by more than it has, or
`substr` throws, when a delimiter is missing. -/
inductive ParsedName where
  | skipped
  | undefined
  | entry (found : FileNameEntry)
  deriving DecidableEq

def ParsedName.toEntry : ParsedName → Option FileNameEntry
  | .entry found => some found
  | _ => none

/-- `std::from_chars` for a `size_t`. -/
def fromChars (text : Text) : Option Nat :=
  let digits := text.takeWhile Char.isDigit
  if digits = [] then none
  else if Nat.ofDigitChars 10 digits 0 < 2 ^ 64 then some (Nat.ofDigitChars 10 digits 0)
  else none

def parseFilename (filename : Text) : ParsedName :=
  if !fileStart.isPrefixOf filename then .skipped
  else
    let filename := filename.drop fileStart.length
    let indexStr := filename.takeWhile (· ≠ indexDelimeter)
    match fromChars indexStr with
    | none => .skipped
    | some index =>
      if indexStr.length + 1 > filename.length then .undefined
      else
        let filename := filename.drop (indexStr.length + 1)
        let sessionIndexStr := filename.takeWhile (· ≠ indexDelimeter)
        match fromChars sessionIndexStr with
        | none => .skipped
        | some sessionIndex =>
          if sessionIndexStr.length + 1 > filename.length then .undefined
          else .entry ⟨index, sessionIndex, filename.drop (sessionIndexStr.length + 1)⟩

/-! ## Files -/

/-- The files of a directory with what they hold. -/
abbrev Directory := List (Text × Bytes)

/-- How writing a session ends: no file is opened, the session is not written and the file is
removed, or the session is in the file. -/
inductive WriteAnswer where
  | unopened
  | unwritten
  | written
  deriving DecidableEq

def writeSession (answer : Text → WriteAnswer) (files : Directory) (file : Text × SslSession) :
    Directory :=
  match answer file.1 with
  | .unopened => files
  | .unwritten => files.filter (·.1 ≠ file.1)
  | .written => (file.1, libs.pemWrite file.2) :: files.filter (·.1 ≠ file.1)

/-- The sessions of the cache that are written, with the names of their files. -/
def savedFiles (now : Nat) (cache : Cache) : List (Text × SslSession) :=
  cache.zipIdx.flatMap fun ((cacheKey, accum), keyIndex) =>
    (accum.filter (checkSessionTimings now)).zipIdx.map fun (session, sessionIndex) =>
      (fileName keyIndex sessionIndex cacheKey, session)

def saveSslCache (now : Nat) (answer : Text → WriteAnswer) (cache : Cache) (files : Directory) :
    Directory :=
  (savedFiles now cache).foldl (writeSession libs answer) files

/-- An entry of `sorted_cache`: the files of one index. -/
structure Group where
  index : Nat
  key : Text
  sessions : List (Nat × SslSession)

/-- Put a session into the group of its index, which gets the key of the first file. -/
def addSession (entry : FileNameEntry) (session : SslSession) (sortedCache : List Group) :
    List Group :=
  (emplace Group.index ⟨entry.index, entry.key, []⟩ sortedCache).map fun group =>
    if group.index = entry.index then
      { group with sessions := emplace Prod.fst (entry.sessionIndex, session) group.sessions }
    else group

/-- Look at the files of a directory one after the other. -/
def scan (now : Nat) (opens : Text → Bool) (sortedCache : List Group) : Directory →
    Option (List Group)
  | [] => some sortedCache
  | file :: files =>
    match parseFilename file.1 with
    | .undefined => none
    | .skipped => scan now opens sortedCache files
    | .entry entry =>
      match if opens file.1 then libs.pemRead file.2 else none with
      | none => scan now opens sortedCache files
      | some session =>
        if checkSessionTimings now session then
          scan now opens (addSession entry session sortedCache) files
        else scan now opens sortedCache files

def Group.accumulator (group : Group) : SessionAccumulator :=
  group.sessions.reverse.foldl (fun accum session => accum.insert session.2) []

/-- The files that a load leaves: the files that are not looked at and those that cannot be
removed. -/
def leftFiles (removes : Text → Bool) (files : Directory) : Directory :=
  files.filter fun file => (parseFilename file.1).toEntry.isNone || !removes file.1

/-- `load_ssl_cache` for a directory whose files come in the order of the list. -/
def loadSslCache (now : Nat) (opens : Text → Bool) (cache : Cache) (files : Directory) :
    Option Cache :=
  (scan libs now opens [] files).map fun sortedCache =>
    sortedCache.reverse.foldl
      (fun cache group => cache.insert libs.capacity group.key group.accumulator) cache

/-! ## Operations -/

/-- An order in which a directory lists its files. -/
structure Listing where
  arrange : Directory → Directory
  mem_arrange : ∀ {files file}, file ∈ arrange files ↔ file ∈ files

/-- The cache of a process and the directories that exist. -/
structure Storage (Path : Type) where
  cache : Cache
  directories : Path → Option Directory

inductive Operation (Path : Type) where
  | cacheSession (hostname : Option Bytes) (session : SslSession) (quic : Bool)
  | popSessionFromCache (sni : Bytes) (quic : Bool) (now : Nat)
  | dumpSessionCache (path : Path) (now : Nat) (answer : Text → WriteAnswer)
  | loadSessionCache (path : Path) (now : Nat) (listing : Listing) (opens removes : Text → Bool)
  /-- The process ends and another one is started. -/
  | restart

variable {Path : Type} [DecidableEq Path]

def dumpSessionCache (storage : Storage Path) (path : Path) (now : Nat)
    (answer : Text → WriteAnswer) : Storage Path :=
  match storage.directories path with
  | none => storage
  | some files =>
    { storage with
      directories := Function.update storage.directories path
        (some (saveSslCache libs now answer storage.cache files)) }

def loadSessionCache (storage : Storage Path) (path : Path) (now : Nat) (listing : Listing)
    (opens removes : Text → Bool) : Storage Path :=
  match storage.directories path with
  | none => storage
  | some files =>
    match loadSslCache libs now opens storage.cache (listing.arrange files) with
    -- The process does not survive.
    | none => { storage with cache := [] }
    | some cache =>
      { cache, directories := Function.update storage.directories path
          (some (leftFiles removes files)) }

/-- An operation with the session that it returns. -/
def Storage.handle (storage : Storage Path) : Operation Path → Storage Path × Option SslSession
  | .cacheSession hostname session quic =>
    ({ storage with cache := cacheSession libs storage.cache hostname session quic }, none)
  | .popSessionFromCache sni quic now =>
    let popped := popSessionFromCache libs storage.cache sni quic now
    ({ storage with cache := popped.2 }, popped.1)
  | .dumpSessionCache path now answer => (dumpSessionCache libs storage path now answer, none)
  | .loadSessionCache path now listing opens removes =>
    (loadSessionCache libs storage path now listing opens removes, none)
  | .restart => ({ storage with cache := [] }, none)

/-!
## The hosts of cached TLS sessions

A session that is taken from the cache for a host and a transport was put there for these, also
when it was on disk in between, as long as a load finds no two files with one index and
different keys. A dump leaves the files of an earlier one that it does not overwrite, and such
a file may have the index of another host.
-/

open Transition List

/-- A session with the host and the transport that it is for. -/
structure HostSession where
  sni : Bytes
  quic : Bool
  session : SslSession
  deriving DecidableEq

/-- The storage with the sessions that were put into the cache and taken from it. -/
structure History (Path : Type) where
  storage : Storage Path
  stored : List HostSession
  returned : List HostSession

/-- What `cache_session` stores. -/
def storedSession (hostname : Option Bytes) (session : SslSession) (quic : Bool) :
    List HostSession :=
  hostname.toList.map (⟨·, quic, session⟩)

def Operation.stored : Operation Path → List HostSession
  | cacheSession hostname session quic => storedSession hostname session quic
  | _ => []

def Operation.returned (session : Option SslSession) : Operation Path → List HostSession
  | popSessionFromCache sni quic _ => session.toList.map (⟨sni, quic, ·⟩)
  | _ => []

def History.next (history : History Path) (operation : Operation Path) : History Path :=
  let handled := history.storage.handle libs operation
  ⟨handled.1, operation.stored ++ history.stored, operation.returned handled.2 ++ history.returned⟩

/-- A process without sessions. -/
def History.start (directories : Path → Option Directory) : History Path :=
  ⟨⟨[], directories⟩, [], []⟩

/-- The entries that the names of files denote. -/
def entries (files : Directory) : List FileNameEntry :=
  files.filterMap fun file => (parseFilename file.1).toEntry

/-- Files of one index are files of one key. -/
def Consistent (files : Directory) : Prop :=
  ∀ left ∈ entries files, ∀ right ∈ entries files, left.index = right.index → left.key = right.key

instance (files : Directory) : Decidable (Consistent files) :=
  inferInstanceAs (Decidable (∀ left ∈ entries files, ∀ right ∈ entries files, _ → _))

/-- A load finds files of one key for an index. -/
def LoadsConsistent (storage : Storage Path) : Operation Path → Prop
  | .loadSessionCache path _ _ _ _ => ∀ files ∈ storage.directories path, Consistent files
  | _ => True

instance (storage : Storage Path) :
    (operation : Operation Path) → Decidable (LoadsConsistent storage operation)
  | .loadSessionCache path _ _ _ _ =>
    inferInstanceAs (Decidable (∀ files ∈ storage.directories path, Consistent files))
  | .cacheSession _ _ _ => .isTrue trivial
  | .popSessionFromCache _ _ _ => .isTrue trivial
  | .dumpSessionCache _ _ _ => .isTrue trivial
  | .restart => .isTrue trivial

/-- The host name of an operation. -/
def Operation.sni : Operation Path → Option Bytes
  | cacheSession hostname _ _ => hostname
  | popSessionFromCache sni _ _ => some sni
  | _ => none

/-- No two of the names have one digest. -/
def CollisionFree (names : List Bytes) : Prop :=
  ∀ left ∈ names, ∀ right ∈ names, libs.sha256 left = libs.sha256 right → left = right

instance (names : List Bytes) : Decidable (CollisionFree libs names) :=
  inferInstanceAs (Decidable (∀ left ∈ names, ∀ right ∈ names, _ → _))

/-! ## Names of files -/

lemma takeWhile_toDigits (number : Nat) (rest : Text) :
    (Nat.toDigits 10 number ++ indexDelimeter :: rest).takeWhile (· ≠ indexDelimeter) =
      Nat.toDigits 10 number := by
  have digits : ∀ char ∈ Nat.toDigits 10 number, decide (char ≠ indexDelimeter) = true := by
    intro char mem
    have digit := Nat.isDigit_of_mem_toDigits (by decide) (by decide) mem
    rw [decide_eq_true_eq]
    rintro rfl
    exact absurd digit (by decide)
  rw [takeWhile_append_of_pos digits, takeWhile_cons_of_neg (by simp), append_nil]

lemma fromChars_toDigits {number value : Nat}
    (parsed : fromChars (Nat.toDigits 10 number) = some value) : value = number := by
  have digits : (Nat.toDigits 10 number).takeWhile Char.isDigit = Nat.toDigits 10 number :=
    takeWhile_eq_self_iff.mpr fun char mem =>
      Nat.isDigit_of_mem_toDigits (by decide) (by decide) mem
  simp only [fromChars, digits, Nat.ofDigitChars_ten_toDigits] at parsed
  grind

variable {entry : FileNameEntry}

/-- The name of a saved file denotes what it was made of, if it denotes anything. -/
lemma entry_of_fileName {keyIndex sessionIndex : Nat} {cacheKey : Text}
    (parsed : parseFilename (fileName keyIndex sessionIndex cacheKey) = .entry entry) :
    entry = ⟨keyIndex, sessionIndex, cacheKey⟩ := by
  have starts : fileStart.isPrefixOf (fileName keyIndex sessionIndex cacheKey) = true :=
    isPrefixOf_iff_prefix.mpr (prefix_append _ _)
  have dropped (number : Nat) (rest : Text) :
      (Nat.toDigits 10 number ++ indexDelimeter :: rest).drop
        ((Nat.toDigits 10 number).length + 1) = rest := by
    rw [drop_append, drop_of_length_le (by omega)]
    simp
  simp only [parseFilename, starts, Bool.not_true, Bool.false_eq_true, if_false] at parsed
  simp only [fileName, drop_left, takeWhile_toDigits, dropped] at parsed
  cases first : fromChars (Nat.toDigits 10 keyIndex) with
  | none => simp [first] at parsed
  | some =>
    cases second : fromChars (Nat.toDigits 10 sessionIndex) with
    | none =>
      simp only [first, second] at parsed
      split at parsed <;> cases parsed
    | some => grind [fromChars_toDigits first, fromChars_toDigits second]

/-! ## Keys of hosts -/

/-- The byte that a text of two digits denotes. -/
def byteOfHex (text : Text) : UInt8 :=
  text.foldl (fun byte digit => 16 * byte + UInt8.ofNat ("0123456789ABCDEF".toList.idxOf digit)) 0

lemma hexByte_injective : Function.Injective hexByte := by
  have inverse : ∀ byte, byteOfHex (hexByte byte) = byte := forall_byte (by decide +kernel)
  exact Function.LeftInverse.injective inverse

lemma flatMap_hexByte_injective : Function.Injective (List.flatMap hexByte) := by
  intro left
  induction left with
  | nil =>
    intro right same
    cases right with
    | nil => rfl
    | cons => cases same
  | cons _ _ ih =>
    intro right same
    cases right with
    | nil => cases same
    | cons =>
      obtain ⟨first, behind⟩ := append_inj same rfl
      rw [hexByte_injective first, ih behind]

variable {libs} in
lemma sessionCacheKey_inj {sni other : Bytes} {quic otherQuic : Bool}
    (same : sessionCacheKey libs sni quic = sessionCacheKey libs other otherQuic) :
    libs.sha256 sni = libs.sha256 other ∧ quic = otherQuic := by
  obtain ⟨digests, marks⟩ := append_inj' same rfl
  constructor
  · exact Vector.toList_inj.mp (flatMap_hexByte_injective digests)
  · cases quic <;> cases otherQuic <;> first | rfl | cases marks

/-! ## Sessions and what they were stored for -/

/-- The session was stored for a host and a transport with the key. -/
def Known (stored : List HostSession) (key : Text) (session : SslSession) : Prop :=
  ∃ host ∈ stored, host.session = session ∧ sessionCacheKey libs host.sni host.quic = key

/-- The sessions of the cache were stored for their keys. -/
def KnownCache (stored : List HostSession) (cache : Cache) : Prop :=
  ∀ entry ∈ cache, ∀ session ∈ entry.2, Known libs stored entry.1 session

/-- The sessions of the files were stored for the keys that their names have. -/
def KnownFiles (stored : List HostSession) (files : Directory) : Prop :=
  ∀ file ∈ files, ∀ entry session, parseFilename file.1 = .entry entry →
    libs.pemRead file.2 = some session → Known libs stored entry.key session

variable {libs} {stored : List HostSession} {key : Text} {session other : SslSession}
  {cache : Cache} {accum : SessionAccumulator} {files : Directory} {now : Nat} {opens : Text → Bool}
  {file : Text × Bytes}

lemma Known.append (known : Known libs stored key session) (more : List HostSession) :
    Known libs (more ++ stored) key session := by
  obtain ⟨host, mem, same⟩ := known
  exact ⟨host, mem_append_right more mem, same⟩

lemma KnownCache.append (known : KnownCache libs stored cache)
    (more : List HostSession) : KnownCache libs (more ++ stored) cache :=
  fun entry mem session inside => (known entry mem session inside).append more

lemma KnownFiles.append (known : KnownFiles libs stored files)
    (more : List HostSession) : KnownFiles libs (more ++ stored) files :=
  fun file mem entry session parsed read => (known file mem entry session parsed read).append more

lemma KnownCache.erase (known : KnownCache libs stored cache) (key : Text) :
    KnownCache libs stored (cache.erase key) :=
  fun entry mem => known entry (Lru.mem_of_mem_erase mem)

section

variable (known : KnownCache libs stored cache)
  (new : ∀ session ∈ accum, Known libs stored key session)

include known new

lemma KnownCache.modify : KnownCache libs stored (cache.modify key accum) := by
  intro entry mem
  rcases Lru.mem_modify mem with rfl | mem
  · exact new
  · exact known entry mem

lemma KnownCache.insert : KnownCache libs stored (cache.insert libs.capacity key accum) := by
  intro entry mem
  rcases Lru.mem_insert mem with rfl | mem
  · exact new
  · exact known entry mem

end

/-! ## Accumulators -/

lemma mem_insert (mem : other ∈ accum.insert session) : other = session ∨ other ∈ accum := by
  rcases mem_cons.mp mem with same | mem
  · exact .inl same
  · split at mem
    · exact .inr (dropLast_subset accum mem)
    · exact .inr mem

lemma mem_of_pop (popped : (accum.pop now).1 = some session) : session ∈ accum := by
  induction accum with
  | nil => cases popped
  | cons first _ ih =>
    rw [SessionAccumulator.pop] at popped
    split at popped
    · cases popped
      exact mem_cons_self
    · exact mem_cons_of_mem first (ih popped)

lemma mem_of_mem_pop (mem : session ∈ (accum.pop now).2) : session ∈ accum := by
  induction accum with
  | nil => cases mem
  | cons first _ ih =>
    rw [SessionAccumulator.pop] at mem
    split at mem
    · exact mem_cons_of_mem first mem
    · exact mem_cons_of_mem first (ih mem)

/-! ## The cache -/

section

variable (known : KnownCache libs stored cache)

include known

lemma KnownCache.cacheSession (hostname : Option Bytes) (session : SslSession) (quic : Bool) :
    KnownCache libs (storedSession hostname session quic ++ stored)
      (cacheSession libs cache hostname session quic) := by
  cases hostname with
  | none => exact known
  | some hostname =>
    have stays := known.append (storedSession (some hostname) session quic)
    have new : Known libs (storedSession (some hostname) session quic ++ stored)
        (sessionCacheKey libs hostname quic) session :=
      ⟨⟨hostname, quic, session⟩, mem_cons_self, rfl, rfl⟩
    rw [SessionCache.cacheSession]
    split
    case h_1 accum found =>
      refine stays.modify fun other mem => ?_
      rcases mem_insert mem with rfl | mem
      · exact new
      · exact stays _ (Lru.mem_of_get found) other mem
    case h_2 absent =>
      refine stays.insert fun other mem => ?_
      rcases mem_insert mem with rfl | mem
      · exact new
      · cases mem

lemma KnownCache.popSessionFromCache (sni : Bytes) (quic : Bool) (now : Nat) :
    KnownCache libs stored (popSessionFromCache libs cache sni quic now).2 := by
  rw [SessionCache.popSessionFromCache]
  dsimp only
  split
  case h_1 absent => exact known
  case h_2 accum found =>
    split
    · exact known.erase _
    · refine known.modify fun session mem => ?_
      exact known _ (Lru.mem_of_get found) session (mem_of_mem_pop mem)

lemma known_of_popSessionFromCache {sni : Bytes} {quic : Bool}
    (popped : (popSessionFromCache libs cache sni quic now).1 = some session) :
    Known libs stored (sessionCacheKey libs sni quic) session := by
  rw [SessionCache.popSessionFromCache] at popped
  split at popped
  case h_1 absent => cases popped
  case h_2 accum found =>
    rw [apply_ite Prod.fst, ite_self] at popped
    exact known _ (Lru.mem_of_get found) session (mem_of_pop popped)

end

/-! ## Dumps -/

/-- A saved file is named after a host of the cache and has one of its sessions. -/
lemma mem_savedFiles {file : Text × SslSession} (mem : file ∈ savedFiles now cache) :
    ∃ keyIndex sessionIndex entry, cache[keyIndex]? = some entry ∧
      file.1 = fileName keyIndex sessionIndex entry.1 ∧ file.2 ∈ entry.2 := by
  obtain ⟨⟨entry, keyIndex⟩, here, inside⟩ := mem_flatMap.mp mem
  obtain ⟨⟨session, sessionIndex⟩, live, rfl⟩ := mem_map.mp inside
  refine ⟨keyIndex, sessionIndex, entry, mk_mem_zipIdx_iff_getElem?.mp here, rfl, ?_⟩
  exact mem_of_mem_filter (mem_of_getElem? (mk_mem_zipIdx_iff_getElem?.mp live))

/-- A file after a dump was there before or was saved. -/
lemma mem_saveSslCache {answer : Text → WriteAnswer}
    (mem : file ∈ saveSslCache libs now answer cache files) :
    file ∈ files ∨ ∃ saved ∈ savedFiles now cache, file = (saved.1, libs.pemWrite saved.2) := by
  rw [saveSslCache] at mem
  generalize savedFiles now cache = saved at mem
  induction saved generalizing files with
  | nil => exact .inl mem
  | cons first _ ih =>
    rcases ih mem with before | ⟨other, inside, same⟩
    · rw [writeSession] at before
      split at before
      · exact .inl before
      · exact .inl (mem_of_mem_filter before)
      · rcases mem_cons.mp before with rfl | before
        · exact .inr ⟨first, mem_cons_self, rfl⟩
        · exact .inl (mem_of_mem_filter before)
    · exact .inr ⟨other, mem_cons_of_mem first inside, same⟩

lemma KnownFiles.saveSslCache (knownFiles : KnownFiles libs stored files)
    (known : KnownCache libs stored cache) (now : Nat) (answer : Text → WriteAnswer) :
    KnownFiles libs stored (saveSslCache libs now answer cache files) := by
  intro file mem entry session parsed read
  rcases mem_saveSslCache mem with before | ⟨saved, written, rfl⟩
  · exact knownFiles file before entry session parsed read
  · obtain ⟨keyIndex, sessionIndex, host, here, name, inside⟩ := mem_savedFiles written
    rw [name] at parsed
    rw [libs.read_write] at read
    cases entry_of_fileName parsed
    cases read
    exact known host (mem_of_getElem? here) saved.2 inside

/-! ## Loads -/

/-- The sessions of a group were stored for its key, which is that of a file with its index. -/
structure KnownGroup (libs : Libraries) (stored : List HostSession) (files : Directory)
    (group : Group) : Prop where
  sessions : ∀ session ∈ group.sessions, Known libs stored group.key session.2
  key : ∃ entry ∈ entries files, entry.index = group.index ∧ entry.key = group.key

lemma mem_entries (mem : file ∈ files) (parsed : parseFilename file.1 = .entry entry) :
    entry ∈ entries files := by
  refine mem_filterMap.mpr ⟨file, mem, ?_⟩
  rw [parsed]
  rfl

lemma KnownGroup.addSession (consistent : Consistent files) {groups : List Group}
    (known : ∀ group ∈ groups, KnownGroup libs stored files group)
    (listed : entry ∈ entries files) (new : Known libs stored entry.key session) :
    ∀ group ∈ addSession entry session groups, KnownGroup libs stored files group := by
  intro group mem
  obtain ⟨before, inside, rfl⟩ := mem_map.mp mem
  have knownBefore : KnownGroup libs stored files before := by
    rcases mem_of_mem_emplace inside with rfl | old
    · exact ⟨forall_mem_nil _, entry, listed, rfl, rfl⟩
    · exact known before old
  split
  case isTrue same =>
    obtain ⟨first, firstListed, index, key⟩ := knownBefore.key
    have sameKey : entry.key = before.key :=
      (consistent entry listed first firstListed (by rw [index, same])).trans key
    refine ⟨fun numbered inside => ?_, first, firstListed, index, key⟩
    rcases mem_of_mem_emplace inside with rfl | old
    · rw [← sameKey]
      exact new
    · exact knownBefore.sessions _ old
  case isFalse => exact knownBefore

lemma KnownGroup.scan (consistent : Consistent files)
    (knownFiles : KnownFiles libs stored files) {rest : Directory}
    (listed : ∀ file ∈ rest, file ∈ files) {groups sortedCache : List Group}
    (known : ∀ group ∈ groups, KnownGroup libs stored files group)
    (scanned : scan libs now opens groups rest = some sortedCache) :
    ∀ group ∈ sortedCache, KnownGroup libs stored files group := by
  induction rest generalizing groups with
  | nil =>
    cases scanned
    exact known
  | cons file rest ih =>
    have listedRest : ∀ file ∈ rest, file ∈ files :=
      fun other mem => listed other (mem_cons_of_mem file mem)
    have here := listed file mem_cons_self
    rw [SessionCache.scan] at scanned
    split at scanned
    case h_1 => cases scanned
    case h_2 => exact ih listedRest known scanned
    case h_3 entry parsed =>
      split at scanned
      case h_1 => exact ih listedRest known scanned
      case h_2 session read =>
        have read : libs.pemRead file.2 = some session := by
          by_cases opened : opens file.1 = true
          · rwa [if_pos opened] at read
          · rw [if_neg opened] at read
            cases read
        split at scanned
        · refine ih listedRest (addSession consistent known (mem_entries here parsed) ?_) scanned
          exact knownFiles file here entry session parsed read
        · exact ih listedRest known scanned

lemma mem_accumulator {group : Group} (mem : session ∈ group.accumulator) :
    ∃ numbered ∈ group.sessions, numbered.2 = session := by
  have folded (list : List (Nat × SslSession)) (accum : SessionAccumulator)
      (mem : session ∈ list.foldl (fun accum numbered => accum.insert numbered.2) accum) :
      session ∈ accum ∨ ∃ numbered ∈ list, numbered.2 = session := by
    induction list generalizing accum with
    | nil => exact .inl mem
    | cons first _ ih =>
      rcases ih _ mem with inside | ⟨numbered, inside, same⟩
      · rcases mem_insert inside with rfl | inside
        · exact .inr ⟨first, mem_cons_self, rfl⟩
        · exact .inl inside
      · exact .inr ⟨numbered, mem_cons_of_mem first inside, same⟩
  rcases folded _ _ mem with inside | ⟨numbered, inside, same⟩
  · cases inside
  · exact ⟨numbered, mem_reverse.mp inside, same⟩

lemma KnownCache.loadSslCache (known : KnownCache libs stored cache)
    (consistent : Consistent files) (knownFiles : KnownFiles libs stored files)
    {loaded : Cache} (done : loadSslCache libs now opens cache files = some loaded) :
    KnownCache libs stored loaded := by
  obtain ⟨sortedCache, scanned, rfl⟩ := Option.map_eq_some_iff.mp done
  have groups : ∀ group ∈ sortedCache.reverse, KnownGroup libs stored files group := by
    intro group mem
    exact KnownGroup.scan consistent knownFiles (fun _ mem => mem)
      (forall_mem_nil _) scanned group (mem_reverse.mp mem)
  clear done scanned
  generalize sortedCache.reverse = list at groups
  induction list generalizing cache with
  | nil => exact known
  | cons group _ ih =>
    have accumulated : ∀ session ∈ group.accumulator, Known libs stored group.key session := by
      intro session mem
      obtain ⟨numbered, inside, rfl⟩ := mem_accumulator mem
      exact (groups group mem_cons_self).sessions numbered inside
    exact ih (known.insert accumulated) fun other mem => groups other (mem_cons_of_mem group mem)

/-! ## Fewer files -/

variable {fewer : Directory}

section

variable (within : ∀ file ∈ fewer, file ∈ files)

include within

lemma entries_subset (mem : entry ∈ entries fewer) : entry ∈ entries files := by
  obtain ⟨file, inside, parsed⟩ := mem_filterMap.mp mem
  exact mem_filterMap.mpr ⟨file, within file inside, parsed⟩

lemma Consistent.subset (consistent : Consistent files) : Consistent fewer :=
  fun left first right second =>
    consistent left (entries_subset within first) right (entries_subset within second)

lemma KnownFiles.subset (known : KnownFiles libs stored files) : KnownFiles libs stored fewer :=
  fun file mem => known file (within file mem)

end

/-! ## Operations -/

/-- What holds for the files of each directory holds after one directory got other files. -/
lemma forall_update {property : Directory → Prop} {directories : Path → Option Directory}
    (holds : ∀ path, ∀ files ∈ directories path, property files) (path : Path)
    (new : property files) :
    ∀ other, ∀ there ∈ Function.update directories path (some files) other, property there := by
  refine (Function.forall_update_iff _
    fun _ here => ∀ there ∈ here, property there).mpr ⟨?_, fun other _ => holds other⟩
  intro there here
  cases here
  exact new

/-- The sessions of the cache and of all directories were stored for their keys. -/
structure KnownStorage (libs : Libraries) (stored : List HostSession)
    (storage : Storage Path) : Prop where
  cache : KnownCache libs stored storage.cache
  files : ∀ path, ∀ files ∈ storage.directories path, KnownFiles libs stored files

omit [DecidableEq Path] in
variable {storage : Storage Path}

lemma KnownStorage.append (known : KnownStorage libs stored storage)
    (more : List HostSession) : KnownStorage libs (more ++ stored) storage :=
  ⟨known.cache.append more, fun path files here => (known.files path files here).append more⟩

omit [DecidableEq Path] in
lemma KnownStorage.restart (known : KnownStorage libs stored storage) :
    KnownStorage libs stored { storage with cache := [] } :=
  ⟨forall_mem_nil _, known.files⟩

lemma KnownStorage.dumpSessionCache (known : KnownStorage libs stored storage)
    (path : Path) (now : Nat) (answer : Text → WriteAnswer) :
    KnownStorage libs stored (dumpSessionCache libs storage path now answer) := by
  rw [SessionCache.dumpSessionCache]
  split
  case h_1 => exact known
  case h_2 files here =>
    have saved := (known.files path files here).saveSslCache known.cache now answer
    exact ⟨known.cache, forall_update known.files path saved⟩

lemma KnownStorage.loadSessionCache (known : KnownStorage libs stored storage)
    {path : Path} (consistent : ∀ files ∈ storage.directories path, Consistent files) (now : Nat)
    (listing : Listing) (opens removes : Text → Bool) :
    KnownStorage libs stored (loadSessionCache libs storage path now listing opens removes) := by
  rw [SessionCache.loadSessionCache]
  split
  case h_1 => exact known
  case h_2 files here =>
    have listed : ∀ file ∈ listing.arrange files, file ∈ files :=
      fun _ mem => listing.mem_arrange.mp mem
    have knownFiles := known.files path files here
    split
    case h_1 => exact known.restart
    case h_2 loaded done =>
      have cache := known.cache.loadSslCache ((consistent files here).subset listed)
        (knownFiles.subset listed) done
      exact ⟨cache, forall_update known.files path (knownFiles.subset fun _ => mem_of_mem_filter)⟩

variable {operation : Operation Path}

lemma KnownStorage.handle (known : KnownStorage libs stored storage)
    (consistent : LoadsConsistent storage operation) :
    KnownStorage libs (operation.stored ++ stored) (storage.handle libs operation).1 := by
  cases operation with
  | cacheSession hostname session quic =>
    exact ⟨known.cache.cacheSession _ session quic, (known.append _).files⟩
  | popSessionFromCache sni quic now =>
    exact ⟨known.cache.popSessionFromCache sni quic now, known.files⟩
  | dumpSessionCache path now answer => exact known.dumpSessionCache path now answer
  | loadSessionCache _ now listing opens removes =>
    exact known.loadSessionCache consistent now listing opens removes
  | restart => exact known.restart

/-! ## Runs -/

/-- What holds after each operation of a run whose host names are in the list. -/
structure Sound (libs : Libraries) (names : List Bytes) (history : History Path) : Prop where
  storage : KnownStorage libs history.stored history.storage
  named : ∀ host ∈ history.stored, host.sni ∈ names
  returned : ∀ host ∈ history.returned, host ∈ history.stored

omit [DecidableEq Path] in
lemma sni_of_stored {host : HostSession} (mem : host ∈ operation.stored) :
    operation.sni = some host.sni := by
  cases operation with
  | cacheSession =>
    obtain ⟨name, here, rfl⟩ := mem_map.mp mem
    exact Option.mem_toList.mp here
  | _ => cases mem

section

variable {names : List Bytes} (free : CollisionFree libs names) {history : History Path}
  (sound : Sound libs names history) (named : ∀ name ∈ operation.sni, name ∈ names)

include free sound named

/-- A session that is returned was stored for the host and the transport. -/
lemma stored_of_returned {host : HostSession}
    (mem : host ∈ operation.returned (history.storage.handle libs operation).2) :
    host ∈ history.stored := by
  cases operation with
  | popSessionFromCache sni =>
    obtain ⟨session, popped, rfl⟩ := mem_map.mp mem
    obtain ⟨⟨name, transport, _⟩, inside, rfl, sameKey⟩ :=
      known_of_popSessionFromCache sound.storage.cache (Option.mem_toList.mp popped)
    obtain ⟨sameDigest, rfl⟩ := sessionCacheKey_inj sameKey
    cases free name (sound.named _ inside) sni (named sni rfl) sameDigest
    exact inside
  | _ => cases mem

lemma Sound.next (consistent : LoadsConsistent history.storage operation) :
    Sound libs names (history.next libs operation) := by
  refine ⟨sound.storage.handle consistent, fun host mem => ?_, fun host mem => ?_⟩
  · rcases mem_append.mp mem with new | old
    · exact named _ (sni_of_stored new)
    · exact sound.named host old
  · apply mem_append_right
    rcases mem_append.mp mem with new | old
    · exact stored_of_returned free sound named new
    · exact sound.returned host old

end

omit [DecidableEq Path] in
lemma sound_start (names : List Bytes) {directories : Path → Option Directory}
    (clean : ∀ path, ∀ files ∈ directories path, entries files = []) :
    Sound libs names (.start directories) := by
  refine ⟨⟨forall_mem_nil _, ?_⟩, forall_mem_nil _, forall_mem_nil _⟩
  intro path files here file mem entry session parsed
  have listed := mem_entries mem parsed
  rw [clean path files here] at listed
  cases listed

variable (libs) in
/-- In every run from directories without session files, in which a load finds files of one key
for an index, each session that is returned for a host and a transport was stored for these. -/
theorem returned_stored_run {directories : Path → Option Directory}
    (clean : ∀ path, ∀ files ∈ directories path, entries files = [])
    (operations : List (Operation Path))
    (free : CollisionFree libs (operations.filterMap Operation.sni))
    (consistent : EachStep (History.next libs)
      (fun history operation => LoadsConsistent history.storage operation)
      (.start directories) operations) :
    Always (History.next libs) (fun history => ∀ host ∈ history.returned, host ∈ history.stored)
      (.start directories) operations := by
  have named : ∀ operation ∈ operations, ∀ name ∈ operation.sni,
      name ∈ operations.filterMap Operation.sni :=
    fun operation mem name here => mem_filterMap.mpr ⟨operation, mem, here⟩
  have steps := (eachStep_of_forall _ named).and consistent
  exact .of_invariant _ (fun sound condition => sound.next free condition.1 condition.2)
    (fun sound => sound.returned) (sound_start _ clean) steps

/-! ## Sample runs -/

/-- Libraries with the first byte of a name in place of a digest, and the fields of a session
one after the other in place of PEM. -/
def plainLibraries : Libraries where
  sha256 name := .replicate 32 (name.headD 0)
  pemWrite session :=
    beBytes 8 session.time.toNat ++ (beBytes 4 session.timeout.toNat ++ session.ticket)
  pemRead bytes := some
    ⟨.ofNat (beNat (bytes.take 8)), .ofNat (beNat ((bytes.drop 8).take 4)), (bytes.drop 8).drop 4⟩
  capacity := 128
  read_write session := by
    have time : session.time.toNat % 256 ^ 8 = session.time.toNat :=
      Nat.mod_eq_of_lt session.time.toNat_lt
    have timeout : session.timeout.toNat % 256 ^ 4 = session.timeout.toNat :=
      Nat.mod_eq_of_lt session.timeout.toNat_lt
    simp only [List.take_left' (length_beBytes _ _), List.drop_left' (length_beBytes _ _),
      beNat_beBytes, time, timeout, UInt64.ofNat_toNat, UInt32.ofNat_toNat]

/-- The files in the order in which they were written, the latest one last. -/
def oldestFirst : Listing := ⟨List.reverse, List.mem_reverse⟩

/-- Put a session of a host into the cache. -/
def storing (sni ticket : Bytes) : Operation Unit := .cacheSession (some sni) ⟨0, 100, ticket⟩ false

def dumping : Operation Unit := .dumpSessionCache () 0 fun _ => .written

def loading : Operation Unit := .loadSessionCache () 0 oldestFirst (fun _ => true) fun _ => true

def popping (sni : Bytes) : Operation Unit := .popSessionFromCache sni false 0

/-- A session of `a` is saved, two sessions of `b` are stored, all are saved and loaded. -/
def twoDumps : List (Operation Unit) :=
  [storing [0x61] [1], dumping, storing [0x62] [2], storing [0x62] [3], dumping, loading,
    popping [0x61], popping [0x61]]

/-- Sessions of two hosts are loaded by the next process. -/
def nextProcess : List (Operation Unit) :=
  [storing [0x61] [1], storing [0x62] [2], dumping, .restart, loading, popping [0x62],
    popping [0x61]]

example : (nextProcess.foldl (History.next plainLibraries) (.start fun _ => some [])).returned =
    [⟨[0x61], false, ⟨0, 100, [1]⟩⟩, ⟨[0x62], false, ⟨0, 100, [2]⟩⟩] := by decide +kernel

theorem returned_stored_nextProcess :
    Always (History.next plainLibraries)
      (fun history => ∀ host ∈ history.returned, host ∈ history.stored)
      (.start fun _ => some []) nextProcess := by
  refine returned_stored_run plainLibraries (fun path files here => ?_) nextProcess
    (by decide +kernel) (by decide +kernel)
  cases here
  rfl

/-- The second session that is returned for `a` was stored for `b`. -/
theorem not_returned_stored_twoDumps :
    (twoDumps.foldl (History.next plainLibraries) (.start fun _ => some [])).returned =
      [⟨[0x61], false, ⟨0, 100, [2]⟩⟩, ⟨[0x61], false, ⟨0, 100, [1]⟩⟩] ∧
    CollisionFree plainLibraries (twoDumps.filterMap Operation.sni) ∧
    ¬Always (History.next plainLibraries)
      (fun history => ∀ host ∈ history.returned, host ∈ history.stored)
      (.start fun _ => some []) twoDumps := by
  refine ⟨by decide +kernel, by decide +kernel, fun always => ?_⟩
  exact absurd always.last (by decide +kernel)

end TrustTunnel.Client.SessionCache
