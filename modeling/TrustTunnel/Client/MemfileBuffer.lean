import TrustTunnel.Wire.Bytes

/-!
# The spill buffer

A queue of bytes that keeps what it can in memory and the rest in a file, which is read from a
moving offset and compacted from time to time. What the file system answers to each call is a
parameter of the operation: a call may fail, and a read or a write may take fewer bytes than
it was asked for.
-/

namespace TrustTunnel.Client

open List

/-! ## In memory -/

/-- A queue of chunks, none of them empty, with the number of bytes in it. -/
structure MemoryBuffer where
  totalSize : Nat
  chunks : List Bytes
  nonempty : [] ∉ chunks
  counted : chunks.flatten.length = totalSize

namespace MemoryBuffer

def bytes (self : MemoryBuffer) : Bytes := self.chunks.flatten

lemma length_bytes (self : MemoryBuffer) : self.bytes.length = self.totalSize := self.counted

def empty : MemoryBuffer := ⟨0, [], List.not_mem_nil, rfl⟩

def push (self : MemoryBuffer) (data : Bytes) : MemoryBuffer :=
  if filled : data = [] then self
  else
    { totalSize := self.totalSize + data.length
      chunks := self.chunks ++ [data]
      nonempty := by
        rw [List.mem_append, List.mem_singleton, not_or]
        exact ⟨self.nonempty, fun same => filled same.symm⟩
      counted := by simp [self.counted] }

lemma bytes_push (self : MemoryBuffer) (data : Bytes) :
    (self.push data).bytes = self.bytes ++ data := by
  rw [push]
  split
  · rename_i nothing
    rw [nothing, append_nil]
  · simp [bytes]

/-- The first chunk. -/
def peek (self : MemoryBuffer) : Bytes := self.chunks.headD []

lemma isPrefix_peek (self : MemoryBuffer) : self.peek <+: self.bytes := by
  rw [peek, bytes]
  cases self.chunks with
  | nil => exact nil_prefix
  | cons front => exact prefix_append front _

lemma bytes_of_peek (self : MemoryBuffer) (nothing : self.peek = []) : self.bytes = [] := by
  rw [peek] at nothing
  rw [bytes]
  cases chunks : self.chunks with
  | nil => rfl
  | cons =>
    rw [chunks, headD_cons] at nothing
    exact absurd (by rw [chunks, nothing]; exact mem_cons_self) self.nonempty

/-- The loop of `drain`: a round for each chunk that is touched. -/
def drainChunks : List Bytes → Nat → List Bytes
  | [], _ => []
  | front :: rest, length =>
    if length = 0 then front :: rest
    else
      let left := front.drop (min front.length length)
      if left = [] then drainChunks rest (length - min front.length length) else left :: rest

lemma flatten_drainChunks (chunks : List Bytes) (length : Nat) :
    (drainChunks chunks length).flatten = chunks.flatten.drop length := by
  induction chunks generalizing length with
  | nil => simp [drainChunks]
  | cons front _ ih =>
    rw [drainChunks, flatten_cons]
    split
    · rename_i nothing
      rw [nothing, drop_zero, flatten_cons]
    · by_cases whole : front.length ≤ length
      · rw [min_eq_left whole, drop_length, if_pos rfl, ih, drop_append,
          drop_of_length_le whole, nil_append]
      · have inside : length ≤ front.length := by omega
        have left : front.drop length ≠ [] := by
          rw [Ne, drop_eq_nil_iff]
          exact whole
        rw [min_eq_right inside]
        simp only [if_neg left]
        rw [flatten_cons, drop_append_of_le_length inside]

lemma nil_not_mem_drainChunks {chunks : List Bytes} (nonempty : [] ∉ chunks) (length : Nat) :
    [] ∉ drainChunks chunks length := by
  induction chunks generalizing length with
  | nil => exact not_mem_nil
  | cons _ _ ih =>
    rw [mem_cons, not_or] at nonempty
    rw [drainChunks]
    split
    · rw [mem_cons, not_or]
      exact nonempty
    · simp only
      split
      · exact ih nonempty.2 _
      · rename_i left
        rw [mem_cons, not_or]
        exact ⟨fun same => left same.symm, nonempty.2⟩

def drain (self : MemoryBuffer) (length : Nat) : Except Fault MemoryBuffer :=
  if length ≤ self.totalSize then
    .ok
      { totalSize := self.totalSize - length
        chunks := drainChunks self.chunks length
        nonempty := nil_not_mem_drainChunks self.nonempty length
        counted := by rw [flatten_drainChunks, List.length_drop, self.counted] }
  else .error .assertion

end MemoryBuffer

/-! ## Answers of the file system -/

/-- The answers to the calls of `transfer_file2mem`. -/
structure TransferAnswers where
  knowsSize : Bool
  seeks : Bool
  /-- How many bytes each read takes; it fails if there is none. -/
  reads : List (Option Nat)

/-- The answers to the calls of `strip_file`. -/
structure StripAnswers where
  knowsSize : Bool
  renames : Bool
  opensFile : Bool
  opensTemp : Bool
  seeks : Bool
  reads : List (Option Nat)
  writes : List (Option Nat)
  removesFile : Bool
  renamesBack : Bool
  reopens : Bool
  removesTemp : Bool

/-- The answers to the calls of one operation. -/
structure FileAnswers where
  /-- The description of the last error. -/
  lastError : String
  transfer : TransferAnswers
  opens : Bool
  knowsSize : Bool
  strip : StripAnswers
  knowsSizeAgain : Bool
  /-- How many bytes the write takes. -/
  write : Option Nat

inductive ReadFailure where
  | eof
  | failed

def ReadFailure.text (lastError : String) : ReadFailure → String
  | eof => "Unexpected EOF while reading file content"
  | failed => lastError

/-- Read a number of bytes: how many were read, and why they are not all. -/
def readAll : List (Option Nat) → Bytes → Nat → Nat × Option ReadFailure
  | _, _, 0 => (0, none)
  | [], _, _ + 1 => (0, some .failed)
  | none :: _, _, _ + 1 => (0, some .failed)
  | some amount :: reads, content, count + 1 =>
    let taken := min amount (min (count + 1) content.length)
    if taken = 0 then (0, some .eof)
    else
      let rest := readAll reads (content.drop taken) (count + 1 - taken)
      (taken + rest.1, rest.2)

/-- The first loop of `transfer_file2file`, which puts whatever it reads at the beginning of
the buffer. -/
def readOver : List (Option Nat) → Bytes → Bytes → Nat → Bytes × Option ReadFailure
  | _, _, buf, 0 => (buf, none)
  | [], _, buf, _ + 1 => (buf, some .failed)
  | none :: _, _, buf, _ + 1 => (buf, some .failed)
  | some amount :: reads, content, buf, count + 1 =>
    let taken := min amount (min (count + 1) content.length)
    if taken = 0 then (buf, some .eof)
    else
      readOver reads (content.drop taken) (content.take taken ++ buf.drop taken) (count + 1 - taken)

/-- The second loop of `transfer_file2file`, which writes from the beginning of the buffer each
time; also says whether all of it was written. -/
def writeOver : List (Option Nat) → Bytes → Bytes → Nat → Bytes × Bool
  | _, target, _, 0 => (target, true)
  | [], target, _, _ + 1 => (target, false)
  | none :: _, target, _, _ + 1 => (target, false)
  | some amount :: writes, target, buf, count + 1 =>
    let taken := min amount (count + 1)
    if taken = 0 then (target, false)
    else writeOver writes (target ++ buf.take taken) buf (count + 1 - taken)

/-- What `transfer_file2file` appends to the new file, and an error. -/
def transferFile2File (lastError : String) (reads writes : List (Option Nat)) (source : Bytes)
    (size : Nat) : Bytes × Option String :=
  if size = 0 then ([], none)
  else
    match readOver reads source (List.replicate size 0) size with
    | (_, some failure) => ([], some (failure.text lastError))
    | (buf, none) =>
      let written := writeOver writes [] buf size
      (written.1, if written.2 then none else some lastError)

/-! ## In memory and in a file -/

structure MemfileBuffer where
  memBuffer : MemoryBuffer
  threshold : Nat
  maxFileSize : Nat
  /-- There is a handle of the file. -/
  isOpen : Bool
  readOffset : Nat
  /-- The file at the path of the buffer. -/
  file : Option Bytes
  /-- The file at the path with `.tmp` behind it. -/
  temp : Option Bytes
  within : memBuffer.totalSize ≤ threshold

structure BufferPeekResult where
  err : Option String
  data : Bytes

namespace MemfileBuffer

/-- A new buffer; there may already be a file at its path. -/
def new (threshold maxFileSize : Nat) (file temp : Option Bytes) : MemfileBuffer where
  memBuffer := .empty
  threshold := threshold
  maxFileSize := maxFileSize
  isOpen := false
  readOffset := 0
  file := file
  temp := temp
  within := Nat.zero_le _

variable (self : MemfileBuffer) (answers : FileAnswers)

def content : Bytes := self.file.getD []

def getFreeMemSpace : Nat := self.threshold - self.memBuffer.totalSize

/-- Put data that fits in the memory. -/
def keep (data : Bytes) (fits : data.length ≤ self.getFreeMemSpace) : MemfileBuffer :=
  { self with
    memBuffer := self.memBuffer.push data
    within := by
      have within := self.within
      rw [getFreeMemSpace] at fits
      rw [← MemoryBuffer.length_bytes, MemoryBuffer.bytes_push, length_append,
        MemoryBuffer.length_bytes]
      omega }

/-- Fill free space in the memory with the content of the file. -/
def transferFile2Mem : Except Fault (Option String × MemfileBuffer) :=
  if self.isOpen = false then .ok (none, self)
  else if self.getFreeMemSpace = 0 then .ok (none, self)
  else if answers.transfer.knowsSize = false then
    .ok (some ("Failed to get file size: " ++ answers.lastError), self)
  else if self.content.length = 0 then .ok (none, self)
  else if self.content.length < self.readOffset then .error .assertion
  else if self.content.length = self.readOffset then .ok (none, self)
  else if answers.transfer.seeks = false then
    .ok (some ("Failed to set file offset: " ++ answers.lastError), self)
  else
    let unread := self.content.drop self.readOffset
    let toRead := min self.getFreeMemSpace (self.content.length - self.readOffset)
    let done := readAll answers.transfer.reads unread toRead
    match done.2 with
    | some .eof =>
      .ok (some "Unexpected EOF while reading file content",
        { self with readOffset := self.readOffset + done.1 })
    | some .failed =>
      .ok (some ("Failed to read file content: " ++ answers.lastError),
        { self with readOffset := self.readOffset + done.1 })
    | none =>
      .ok (none,
        { self.keep (unread.take toRead)
            (Nat.le_trans (List.length_take_le _ _) (Nat.min_le_left _ _)) with
          readOffset := self.readOffset + done.1 })

/-- Fill free space in the memory with data; the rest of it is returned. -/
def transferMem2Mem (data : Bytes) : Bytes × MemfileBuffer :=
  (data.drop self.getFreeMemSpace,
    self.keep (data.take self.getFreeMemSpace) (List.length_take_le _ _))

/-- A number of type `size_t`. -/
def wrapped (number : Nat) : Nat := number % 18446744073709551616

def needToStripFile (fsize dataSize : Nat) : Bool :=
  self.maxFileSize < wrapped (fsize + dataSize) ||
    (0 < self.readOffset &&
      (wrapped (self.maxFileSize * 3) / 10 < self.readOffset ||
        wrapped (fsize * 3) / 10 < self.readOffset || wrapped (self.maxFileSize * 8) / 10 < fsize))

/-- What `strip_file` does between the two files: the new file, if there is one, and an
error. -/
def copyUnread : Option Bytes × Option String :=
  if answers.strip.opensFile = false then
    (none, some ("Failed to open file: " ++ answers.lastError))
  else if answers.strip.opensTemp = false then
    (some [], some ("Failed to open temp file: " ++ answers.lastError))
  else if answers.strip.seeks = false then
    (some [], some ("Failed to set file offset: " ++ answers.lastError))
  else
    let copied := transferFile2File answers.lastError answers.strip.reads answers.strip.writes
      (self.content.drop self.readOffset) (self.content.length - self.readOffset)
    (some copied.1, copied.2.map ("Failed to transfer file content: " ++ ·))

/-- Strip the read part from the file. -/
def stripFile : Option String × MemfileBuffer :=
  if answers.strip.knowsSize = false then
    (some ("Failed to get file size: " ++ answers.lastError), self)
  else if self.content.length < self.readOffset then
    (some "File size is less than the read offset", self)
  else if answers.strip.renames = false then
    (some ("Failed to rename file: " ++ answers.lastError), { self with isOpen := false })
  else
    match self.copyUnread answers with
    | (copy, none) =>
      (none,
        { self with
          isOpen := true
          file := copy
          readOffset := 0
          temp := if answers.strip.removesTemp then none else self.file })
    | (copy, some error) =>
      (some error,
        if answers.strip.renamesBack then
          { self with isOpen := answers.strip.reopens, temp := none }
        else
          { self with
            isOpen := false
            file := if answers.strip.removesFile then none else copy
            temp := if answers.strip.removesTemp then none else self.file })

/-- Write as much of the data as the size of the file allows. -/
def appendData (data : Bytes) : Option String × MemfileBuffer :=
  if answers.knowsSizeAgain = false then
    (some ("Failed to get file size: " ++ answers.lastError), self)
  else if self.maxFileSize ≤ self.content.length then (some "File reached its capacity", self)
  else
    let data := data.take (self.maxFileSize - self.content.length)
    match answers.write with
    | some (amount + 1) =>
      (none, { self with file := some (self.content ++ data.take (amount + 1)) })
    | _ => (some ("Failed to write data: " ++ answers.lastError), self)

/-- The file is open, or is opened and created if there is none. -/
def openFile : Option MemfileBuffer :=
  if self.isOpen then some self
  else if answers.opens then some { self with isOpen := true, file := some self.content }
  else none

def writeInFile (data : Bytes) : Option String × MemfileBuffer :=
  if data = [] then (none, self)
  else
    match self.openFile answers with
    | none => (some ("Failed to open file: " ++ answers.lastError), self)
    | some opened =>
      if answers.knowsSize = false then
        (some ("Failed to get file size: " ++ answers.lastError), opened)
      else if opened.needToStripFile opened.content.length data.length then
        match opened.stripFile answers with
        | (some error, stripped) => (some ("Failed to strip file: " ++ error), stripped)
        | (none, stripped) => stripped.appendData answers data
      else opened.appendData answers data

/-- `push(U8View)`. -/
def push (data : Bytes) : Option String × MemfileBuffer :=
  let kept := self.transferMem2Mem data
  kept.2.writeInFile answers kept.1

/-- `push(std::vector<uint8_t>)`. A vector that fits in the memory is swapped with an empty
one, from which as many bytes are erased afterwards. -/
def pushVector (data : Bytes) : Except Fault (Option String × MemfileBuffer) :=
  if self.getFreeMemSpace ≠ 0 ∧ data.length ≤ self.getFreeMemSpace ∧ data ≠ [] then
    .error .outOfRange
  else .ok (self.push answers data)

def peek : Except Fault (BufferPeekResult × MemfileBuffer) := do
  let (err, buffer) ← self.transferFile2Mem answers
  match err with
  | some err => return (⟨some err, []⟩, buffer)
  | none => return (⟨none, buffer.memBuffer.peek⟩, buffer)

/-- Take bytes off the memory. -/
def drainMemory (length : Nat) : Except Fault MemfileBuffer :=
  match drained : self.memBuffer.drain length with
  | .error fault => .error fault
  | .ok memBuffer =>
    .ok { self with
      memBuffer := memBuffer
      within := by
        have within := self.within
        rw [MemoryBuffer.drain] at drained
        split at drained
        · cases drained
          simp only
          omega
        · cases drained }

def drain (length : Nat) : Except Fault MemfileBuffer := do
  let buffer ← self.drainMemory length
  let (_, buffer) ← buffer.transferFile2Mem answers
  return buffer

end MemfileBuffer

end TrustTunnel.Client
