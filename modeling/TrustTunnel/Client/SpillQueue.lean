import TrustTunnel.Client.MemfileBuffer
import TrustTunnel.Transition.Trace

/-!
# The spill buffer as a queue

What is in memory, and behind it what is unread in the file, is one queue. No byte of it is
lost, repeated or moved as long as the file system does not cut what is written or copied, and
no transfer breaks off in the middle.
-/

namespace TrustTunnel.Client

open Transition List

/-! ## Loops over reads and writes -/

variable {reads : List (Option Nat)} {count : Nat} {writes : List (Option Nat)} {content : Bytes}
  {content buf : Bytes} {target buf : Bytes} {lastError : String} {source : Bytes}

lemma readAll_of_none (whole : (readAll reads content count).2 = none) :
    (readAll reads content count).1 = count := by
  induction reads generalizing content count with
  | nil =>
    cases count with
    | zero => rfl
    | succ => cases whole
  | cons answer _ ih =>
    cases count with
    | zero => rfl
    | succ =>
      cases answer with
      | none => cases whole
      | some =>
        simp only [readAll] at whole ⊢
        split at whole
        · cases whole
        · rename_i some
          rw [if_neg some]
          rw [ih whole]
          omega

/-- The answers are enough for all the bytes: none of those that are needed is a failure. -/
def Suffices : List (Option Nat) → Nat → Prop
  | _, 0 => True
  | some (amount + 1) :: answers, count + 1 => Suffices answers (count - amount)
  | _, _ + 1 => False

lemma readAll_eq_none_iff (enough : count ≤ content.length) :
    (readAll reads content count).2 = none ↔ Suffices reads count := by
  fun_induction Suffices reads count generalizing content with
  | case1 => simp [readAll]
  | case2 amount _ count ih =>
    have taken : min (amount + 1) (min (count + 1) content.length) = min amount count + 1 := by omega
    have rest : count + 1 - (min amount count + 1) = count - amount := by omega
    rw [readAll, taken, if_neg (Nat.succ_ne_zero _), rest]
    exact ih (by rw [length_drop]; omega)
  | case3 reads count other =>
    match reads with
    | [] | none :: _ => simp [readAll]
    | some 0 :: _ => simp [readAll]
    | some (amount + 1) :: rest => exact (other amount rest rfl).elim

/-- The first read takes something unless it fails. -/
lemma readAll_eq_zero_iff (some : count ≠ 0) (enough : count ≤ content.length) :
    (readAll reads content count).1 = 0 ↔ ¬Suffices reads 1 := by
  obtain ⟨count, rfl⟩ := Nat.exists_eq_succ_of_ne_zero some
  match reads with
  | [] | none :: _ | .some 0 :: _ => simp [readAll, Suffices]
  | .some (amount + 1) :: _ =>
    have taken : min (amount + 1) (min (count + 1) content.length) ≠ 0 := by omega
    simp only [readAll, if_neg taken, Suffices, Nat.zero_sub, not_true_eq_false, iff_false]
    omega

/-- The first answer is enough for all the bytes. -/
def AtOnce : List (Option Nat) → Nat → Prop
  | some amount :: _, count => count ≤ amount
  | _, _ => False

instance : (answers : List (Option Nat)) → (count : Nat) → Decidable (AtOnce answers count)
  | [], _ => instDecidableFalse
  | none :: _, _ => instDecidableFalse
  | some amount :: _, count => inferInstanceAs (Decidable (count ≤ amount))

lemma AtOnce.exists_cons {answers : List (Option Nat)} (atOnce : AtOnce answers count) :
    ∃ amount rest, answers = some amount :: rest ∧ count ≤ amount := by
  cases answers with
  | nil => exact atOnce.elim
  | cons answer rest =>
    cases answer with
    | none => exact atOnce.elim
    | some amount => exact ⟨amount, rest, rfl, atOnce⟩

lemma readOver_atOnce (filled : content ≠ []) (same : buf.length = content.length)
    (atOnce : AtOnce reads content.length) :
    readOver reads content buf content.length = (content, none) := by
  obtain ⟨amount, rest, rfl, enough⟩ := atOnce.exists_cons
  cases content with
  | nil => exact absurd rfl filled
  | cons _ bytes =>
    rw [length_cons] at same enough ⊢
    have taken : min amount (min (bytes.length + 1) (bytes.length + 1)) = bytes.length + 1 := by
      omega
    rw [readOver, length_cons, taken, if_neg (Nat.succ_ne_zero _), Nat.sub_self, readOver,
      ← length_cons, take_length, length_cons, ← same, drop_length, append_nil]

lemma writeOver_atOnce (filled : buf ≠ []) (atOnce : AtOnce writes buf.length) :
    writeOver writes target buf buf.length = (target ++ buf, true) := by
  obtain ⟨amount, rest, rfl, enough⟩ := atOnce.exists_cons
  cases buf with
  | nil => exact absurd rfl filled
  | cons _ bytes =>
    rw [length_cons] at enough ⊢
    have taken : min amount (bytes.length + 1) = bytes.length + 1 := by omega
    rw [writeOver, taken, if_neg (Nat.succ_ne_zero _), Nat.sub_self, writeOver,
      ← length_cons, take_length]

/-- The first answer is enough for all the bytes, or is a failure. -/
def Whole (answers : List (Option Nat)) (count : Nat) : Prop :=
  AtOnce answers count ∨ ¬Suffices answers 1

lemma readOver_of_failure (some : count ≠ 0) (failure : ¬Suffices reads 1) :
    (readOver reads content buf count).2 ≠ none := by
  obtain ⟨count, rfl⟩ := Nat.exists_eq_succ_of_ne_zero some
  match reads with
  | [] | none :: _ | .some 0 :: _ => simp [readOver]
  | .some (_ + 1) :: _ => simp [Suffices] at failure

lemma writeOver_of_failure (some : count ≠ 0) (failure : ¬Suffices writes 1) :
    (writeOver writes target buf count).2 = false := by
  obtain ⟨count, rfl⟩ := Nat.exists_eq_succ_of_ne_zero some
  match writes with
  | [] | none :: _ | .some 0 :: _ => simp [writeOver]
  | .some (_ + 1) :: _ => simp [Suffices] at failure

lemma transferFile2File_atOnce
    (atOnce : source.length = 0 ∨ AtOnce reads source.length ∧ AtOnce writes source.length) :
    transferFile2File lastError reads writes source source.length = (source, none) := by
  rw [transferFile2File]
  split
  · rename_i nothing
    rw [length_eq_zero_iff.mp nothing]
  · rename_i positive
    obtain ⟨reading, writing⟩ := atOnce.resolve_left positive
    have filled : source ≠ [] := fun nothing => positive (by rw [nothing]; rfl)
    rw [readOver_atOnce filled length_replicate reading]
    simp only [writeOver_atOnce filled writing, nil_append, if_true]

/-- A copy is a copy or fails if each of its calls takes all or fails. -/
lemma transferFile2File_whole
    (whole : source.length = 0 ∨ Whole reads source.length ∧ Whole writes source.length)
    (fine : (transferFile2File lastError reads writes source source.length).2 = none) :
    (transferFile2File lastError reads writes source source.length).1 = source := by
  by_cases nothing : source.length = 0
  · rw [transferFile2File_atOnce (.inl nothing)]
  obtain ⟨reading | failure, writing⟩ := whole.resolve_left nothing
  · rcases writing with writing | failure
    · rw [transferFile2File_atOnce (.inr ⟨reading, writing⟩)]
    · have filled : source ≠ [] := fun empty => nothing (by rw [empty]; rfl)
      rw [transferFile2File, if_neg nothing, readOver_atOnce filled length_replicate reading] at fine
      simp [writeOver_of_failure nothing failure] at fine
  · have fails := @readOver_of_failure _ _ source (replicate source.length 0) nothing failure
    rw [transferFile2File, if_neg nothing] at fine
    split at fine
    · cases fine
    · rename_i outcome
      rw [outcome] at fails
      exact absurd rfl fails

namespace MemfileBuffer

variable (self : MemfileBuffer) (answers : FileAnswers)

/-! ## The queue -/

/-- What is in the file and has not been read. -/
def unread : Bytes := self.content.drop self.readOffset

def queue : Bytes := self.memBuffer.bytes ++ self.unread

/-- The file is at least as long as what was read of it. -/
def OffsetInside : Prop := self.readOffset ≤ self.content.length

lemma length_unread : self.unread.length = self.content.length - self.readOffset := length_drop

variable {self answers}

lemma unread_eq_nil (read : self.content.length = self.readOffset) : self.unread = [] := by
  rw [unread, ← read, drop_length]

variable (self) in
/-- Data that is kept in memory goes behind what is there. -/
lemma bytes_keep (data : Bytes) (fits : data.length ≤ self.getFreeMemSpace) :
    (self.keep data fits).memBuffer.bytes = self.memBuffer.bytes ++ data :=
  self.memBuffer.bytes_push data

/-! ## Transfers to the memory -/

variable (self answers) in
/-- A transfer to so much free memory does not break off in the middle: if it reads at all, a
read that fails is the first one. -/
def TransferKeeps (free : Nat) : Prop :=
  self.isOpen = true → free ≠ 0 → answers.transfer.knowsSize = true →
    answers.transfer.seeks = true →
      Suffices answers.transfer.reads (min free self.unread.length) ∨
        ¬Suffices answers.transfer.reads 1

/-- The reads of a transfer that is not over before. -/
structure Reads (buffer : MemfileBuffer) (answers : FileAnswers) : Prop where
  isOpen : ¬buffer.isOpen = false
  room : ¬buffer.getFreeMemSpace = 0
  known : ¬answers.transfer.knowsSize = false
  inside : ¬buffer.content.length < buffer.readOffset
  left : ¬buffer.content.length = buffer.readOffset
  sought : ¬answers.transfer.seeks = false

lemma Reads.eq_zero_iff (reads : self.Reads answers) {failure : ReadFailure}
    (failed : (readAll answers.transfer.reads self.unread
      (min self.getFreeMemSpace (self.content.length - self.readOffset))).2 = some failure) :
    (readAll answers.transfer.reads self.unread
      (min self.getFreeMemSpace (self.content.length - self.readOffset))).1 = 0 ↔
        self.TransferKeeps answers self.getFreeMemSpace := by
  obtain ⟨isOpen, room, known, inside, left, sought⟩ := reads
  have enough : min self.getFreeMemSpace (self.content.length - self.readOffset) ≤
      self.unread.length := by
    rw [length_unread]
    exact min_le_right _ _
  have insufficient : ¬Suffices answers.transfer.reads
      (min self.getFreeMemSpace (self.content.length - self.readOffset)) := by
    rw [← readAll_eq_none_iff enough, failed]
    exact Option.some_ne_none _
  rw [readAll_eq_zero_iff (by omega) enough, TransferKeeps, length_unread]
  simp [isOpen, room, known, sought, insufficient]

/-- The memory has something of the queue, or can get it. -/
def Reachable (self : MemfileBuffer) : Prop :=
  self.memBuffer.bytes = [] → self.unread ≠ [] → self.isOpen = true ∧ self.threshold ≠ 0

/-- The result of a transfer to the memory. -/
structure Transferred (before after : MemfileBuffer) (err : Option String) : Prop where
  queue : after.queue = before.queue
  inside : after.OffsetInside
  /-- Without an error nothing is in the queue that is not in the memory, unless the memory is
  not empty. -/
  served : err = none → before.Reachable → after.memBuffer.bytes = [] → after.unread = []

lemma Transferred.refl {err : Option String} (inside : self.OffsetInside)
    (served : err = none → self.memBuffer.bytes = [] → self.Reachable → self.unread = []) :
    Transferred self self err :=
  ⟨rfl, inside, fun fine reachable nothing => served fine nothing reachable⟩

lemma Reachable.unread_eq_nil (reachable : self.Reachable) (nothing : self.memBuffer.bytes = [])
    (stuck : ¬(self.isOpen = true ∧ self.threshold ≠ 0)) : self.unread = [] := by
  by_contra waits
  exact stuck (reachable nothing waits)

lemma threshold_eq_zero (full : self.getFreeMemSpace = 0)
    (nothing : self.memBuffer.bytes = []) : self.threshold = 0 := by
  have size := self.memBuffer.length_bytes
  rw [nothing] at size
  rw [getFreeMemSpace, ← size] at full
  exact full

/-- Bytes that are read go from the file to the end of the memory. -/
lemma transferred_keep (fits : (self.unread.take count).length ≤ self.getFreeMemSpace)
    (available : count ≤ self.unread.length) (some : count ≠ 0) :
    Transferred self
      { self.keep (self.unread.take count) fits with readOffset := self.readOffset + count }
      none where
  queue := by
    rw [queue, queue, bytes_keep, append_assoc]
    congr 1
    have rest : unread { self.keep (self.unread.take count) fits with
        readOffset := self.readOffset + count } = self.unread.drop count :=
      drop_drop.symm
    rw [rest, take_append_drop]
  inside := by
    rw [length_unread] at available
    have moved : self.readOffset + count ≤ self.content.length := by omega
    exact moved
  served _ _ nothing := by
    rw [bytes_keep, append_eq_nil_iff, take_eq_nil_iff] at nothing
    rcases nothing.2 with none | empty
    · exact absurd none some
    · rw [empty, length_nil] at available
      omega

lemma transferFile2Mem_spec (inside : self.OffsetInside)
    (keeps : self.TransferKeeps answers self.getFreeMemSpace) :
    ∃ err after, self.transferFile2Mem answers = .ok (err, after) ∧ Transferred self after err := by
  fun_cases transferFile2Mem
  case case1 closed =>
    refine ⟨none, self, rfl, .refl inside fun _ nothing reachable => ?_⟩
    exact reachable.unread_eq_nil nothing fun serves => by rw [closed] at serves; cases serves.1
  case case2 full =>
    refine ⟨none, self, rfl, .refl inside fun _ nothing reachable => ?_⟩
    exact reachable.unread_eq_nil nothing fun serves => serves.2 (threshold_eq_zero full nothing)
  case case4 empty =>
    refine ⟨none, self, rfl, .refl inside fun _ _ _ => ?_⟩
    rw [unread, length_eq_zero_iff.mp empty, drop_nil]
  case case5 beyond => exact absurd inside (Nat.not_le_of_lt beyond)
  case case6 read => exact ⟨none, self, rfl, .refl inside fun _ _ _ => unread_eq_nil read⟩
  case case10 toRead done outcome =>
    have all : done.1 = toRead := readAll_of_none outcome
    simp only [all]
    refine ⟨none, _, rfl, transferred_keep ?_ ?_ ?_⟩
    · exact le_trans (length_take_le _ _) (min_le_left _ _)
    · rw [length_unread]
      exact min_le_right _ _
    · omega
  case case8 isOpen room known _ beyond left sought _ toRead done outcome
      | case9 isOpen room known _ beyond left sought _ toRead done outcome =>
    have reads : self.Reads answers := ⟨isOpen, room, known, beyond, left, sought⟩
    have nothing : done.1 = 0 := (reads.eq_zero_iff outcome).mpr keeps
    simp only [nothing, add_zero]
    exact ⟨_, self, rfl, .refl inside fun fine => by cases fine⟩
  all_goals exact ⟨_, self, rfl, .refl inside fun fine => by cases fine⟩

/-! ## The file -/

/-- Each call for the copy of a renamed file takes all or fails, and the file can get its old
name back. -/
structure StripKeeps (answers : FileAnswers) (size : Nat) : Prop where
  whole : size = 0 ∨ Whole answers.strip.reads size ∧ Whole answers.strip.writes size
  restored : answers.strip.renamesBack = true

/-- The file system lets the file be stripped. -/
structure Strips (answers : FileAnswers) (size : Nat) : Prop where
  knowsSize : answers.strip.knowsSize = true
  renames : answers.strip.renames = true
  opensFile : answers.strip.opensFile = true
  opensTemp : answers.strip.opensTemp = true
  seeks : answers.strip.seeks = true
  atOnce : size = 0 ∨ AtOnce answers.strip.reads size ∧ AtOnce answers.strip.writes size

/-- What a part of a push does to the file; the memory stays as it is. -/
structure Filed (before after : MemfileBuffer) (more : Bytes) : Prop where
  memory : after.memBuffer = before.memBuffer
  unread : after.unread = before.unread ++ more
  inside : after.OffsetInside

lemma Filed.refl (inside : self.OffsetInside) : Filed self self [] :=
  ⟨rfl, (append_nil _).symm, inside⟩

lemma copyUnread_of_none (keeps : StripKeeps answers self.unread.length)
    (fine : (self.copyUnread answers).2 = none) :
    (self.copyUnread answers).1 = some self.unread := by
  revert fine
  fun_cases copyUnread
  case case4 =>
    have copied := @transferFile2File_whole _ _ answers.lastError _ keeps.whole
    rw [length_unread] at copied
    exact fun fine => congrArg some (copied (Option.map_eq_none_iff.mp fine))
  all_goals exact fun fine => by cases fine

lemma stripFile_of_strips (inside : self.OffsetInside)
    (strips : Strips answers self.unread.length) : (self.stripFile answers).1 = none := by
  obtain ⟨knowsSize, renames, opensFile, opensTemp, seeks, atOnce⟩ := strips
  have copied := @transferFile2File_atOnce _ _ answers.lastError _ atOnce
  have within : ¬self.content.length < self.readOffset := Nat.not_lt_of_le inside
  rw [length_unread] at copied
  simp only [unread] at copied
  simp [stripFile, copyUnread, knowsSize, renames, opensFile, opensTemp, seeks, within, copied]

/-- A file that is stripped keeps what is unread of it, whether that succeeds or not. -/
lemma filed_stripFile (inside : self.OffsetInside)
    (keeps : answers.strip.renames = true → StripKeeps answers self.unread.length) :
    Filed self (self.stripFile answers).2 [] := by
  fun_cases stripFile
  case case4 renamed copy outcome =>
    have same : (self.copyUnread answers).2 = none := by rw [outcome]
    have whole := copyUnread_of_none (keeps (by simpa using renamed)) same
    rw [outcome] at whole
    simp only at whole
    refine ⟨rfl, ?_, Nat.zero_le _⟩
    simp only [whole, unread, content, Option.getD_some, drop_zero, append_nil]
  case case5 renamed copy error outcome =>
    have back := (keeps (by simpa using renamed)).restored
    simp only [back, if_true]
    exact ⟨rfl, (append_nil _).symm, inside⟩
  all_goals exact ⟨rfl, (append_nil _).symm, inside⟩

/-- Neither the limit on a file of the given size nor a short write cuts the data: it fits or
the file is full, and the write takes all of it or fails. -/
structure Uncut (answers : FileAnswers) (size maxFileSize : Nat) (data : Bytes) : Prop where
  fits : size + data.length ≤ maxFileSize ∨ maxFileSize ≤ size
  write : ∀ amount ∈ answers.write, amount = 0 ∨ data.length ≤ amount

/-- The size of the file when data is written: what has been read is stripped if need be. -/
def sizeFor (buffer : MemfileBuffer) (data : Bytes) : Nat :=
  if buffer.needToStripFile buffer.content.length data.length then buffer.unread.length
  else buffer.content.length

variable {data : Bytes} {opened : MemfileBuffer}

lemma filed_appendData (inside : self.OffsetInside)
    (uncut : Uncut answers self.content.length self.maxFileSize data) :
    Filed self (self.appendData answers data).2
      (if (self.appendData answers data).1 = none then data else []) := by
  fun_cases appendData
  case case3 room taken amount written =>
    have whole : taken = data := by
      refine take_of_length_le ?_
      rcases uncut.fits with fits | full
      · omega
      · exact absurd full room
    have all : data.length ≤ amount + 1 := (uncut.write _ written).resolve_left (Nat.succ_ne_zero _)
    rw [whole, take_of_length_le all]
    refine ⟨rfl, ?_, ?_⟩
    · exact drop_append_of_le_length inside
    · have longer : self.readOffset ≤ (self.content ++ data).length := by
        rw [length_append]
        exact Nat.le_add_right_of_le inside
      exact longer
  all_goals exact .refl inside

/-- Whatever is written is written whole, and the file is stripped without losing anything. -/
structure WriteKeeps (buffer : MemfileBuffer) (answers : FileAnswers) (data : Bytes) : Prop where
  strip : buffer.needToStripFile buffer.content.length data.length = true →
    answers.strip.renames = true → StripKeeps answers buffer.unread.length
  uncut : Uncut answers (buffer.sizeFor data) buffer.maxFileSize data

lemma maxFileSize_stripFile (self : MemfileBuffer) (answers : FileAnswers) :
    (self.stripFile answers).2.maxFileSize = self.maxFileSize := by
  fun_cases stripFile
  case case5 => split <;> rfl
  all_goals rfl

lemma readOffset_stripFile (fine : (self.stripFile answers).1 = none) :
    (self.stripFile answers).2.readOffset = 0 := by
  revert fine
  fun_cases stripFile
  case case4 => exact fun _ => rfl
  all_goals exact fun fine => by cases fine

/-- A stripped file has nothing but what was unread. -/
lemma content_stripFile (inside : self.OffsetInside)
    (keeps : answers.strip.renames = true → StripKeeps answers self.unread.length)
    (fine : (self.stripFile answers).1 = none) :
    (self.stripFile answers).2.content = self.unread := by
  have filed := (filed_stripFile inside keeps).unread
  rwa [unread, readOffset_stripFile fine, drop_zero, append_nil] at filed

/-- A file that is opened has what it had. -/
structure Opened (before after : MemfileBuffer) : Prop where
  memory : after.memBuffer = before.memBuffer
  content : after.content = before.content
  unread : after.unread = before.unread
  limit : after.maxFileSize = before.maxFileSize
  needs {data : Bytes} : after.needToStripFile after.content.length data.length =
    before.needToStripFile before.content.length data.length
  inside : before.OffsetInside → after.OffsetInside

lemma opened_of_openFile (outcome : self.openFile answers = some opened) :
    (self.isOpen = true ∨ answers.opens = true) ∧ Opened self opened := by
  rw [openFile] at outcome
  split at outcome
  · rename_i isOpen
    cases outcome
    exact ⟨.inl isOpen, rfl, rfl, rfl, rfl, rfl, id⟩
  · split at outcome
    · rename_i opens
      cases outcome
      exact ⟨.inr opens, rfl, rfl, rfl, rfl, rfl, id⟩
    · cases outcome

lemma Opened.keeps (same : Opened self opened) (keeps : self.WriteKeeps answers data) :
    opened.WriteKeeps answers data := by
  obtain ⟨strip, uncut⟩ := keeps
  rw [← same.needs, ← same.unread] at strip
  rw [sizeFor, ← same.needs, ← same.unread, ← same.content, ← same.limit] at uncut
  exact ⟨strip, uncut⟩

lemma filed_writeInFile (inside : self.OffsetInside)
    (keeps : self.isOpen = true ∨ answers.opens = true → self.WriteKeeps answers data) :
    Filed self (self.writeInFile answers data).2
      (if (self.writeInFile answers data).1 = none then data else []) := by
  rw [writeInFile]
  split
  · rename_i nothing
    rw [nothing]
    exact .refl inside
  cases outcome : self.openFile answers with
  | none => exact .refl inside
  | some opened =>
    obtain ⟨opens, same⟩ := opened_of_openFile outcome
    have keeps := same.keeps (keeps opens)
    have inside : opened.OffsetInside := same.inside inside
    have join : ∀ {after more}, Filed opened after more → Filed self after more :=
      fun filed => ⟨filed.memory.trans same.memory, by rw [filed.unread, same.unread], filed.inside⟩
    simp only
    split
    · exact join (.refl inside)
    split
    · rename_i needed
      have stripped := filed_stripFile inside (keeps.strip needed)
      have limit := opened.maxFileSize_stripFile answers
      have content := content_stripFile inside (keeps.strip needed)
      have uncut := keeps.uncut
      rw [sizeFor, if_pos needed] at uncut
      cases result : opened.stripFile answers with
      | mk err after =>
        rw [result] at stripped limit content
        cases err with
        | some => exact join stripped
        | none =>
          have uncut : Uncut answers after.content.length after.maxFileSize data := by
            rw [content rfl, limit]
            exact uncut
          have appended := filed_appendData stripped.inside uncut
          have added := appended.unread
          rw [stripped.unread, append_nil] at added
          exact join ⟨appended.memory.trans stripped.memory, added, appended.inside⟩
    · rename_i needless
      have uncut := keeps.uncut
      rw [sizeFor, if_neg needless] at uncut
      exact join (filed_appendData inside uncut)

/-- The file system lets the data be written. -/
structure Writes (buffer : MemfileBuffer) (answers : FileAnswers) (data : Bytes) : Prop where
  opens : buffer.isOpen = true ∨ answers.opens = true
  knowsSize : answers.knowsSize = true
  strips : buffer.needToStripFile buffer.content.length data.length = true →
    Strips answers buffer.unread.length
  knowsSizeAgain : answers.knowsSizeAgain = true
  room : buffer.sizeFor data < buffer.maxFileSize
  write : Suffices [answers.write] 1

lemma appendData_of_room (knows : answers.knowsSizeAgain = true)
    (room : self.content.length < self.maxFileSize) (write : Suffices [answers.write] 1) :
    (self.appendData answers data).1 = none := by
  fun_cases appendData
  case case1 unknown => simp [knows] at unknown
  case case2 full => exact absurd room (Nat.not_lt_of_le full)
  case case3 => rfl
  case case4 other =>
    match answer : answers.write with
    | none | some 0 => simp [answer, Suffices] at write
    | some (amount + 1) => exact (other amount answer).elim

lemma writeInFile_of_writes (inside : self.OffsetInside) (keeps : self.WriteKeeps answers data)
    (writes : self.Writes answers data) : (self.writeInFile answers data).1 = none := by
  rw [writeInFile]
  split
  · rfl
  cases outcome : self.openFile answers with
  | none =>
    rw [openFile] at outcome
    split at outcome
    · cases outcome
    · rename_i closed
      rw [if_pos (writes.opens.resolve_left closed)] at outcome
      cases outcome
  | some opened =>
    obtain ⟨-, same⟩ := opened_of_openFile outcome
    have inside : opened.OffsetInside := same.inside inside
    have keeps := same.keeps keeps
    obtain ⟨-, knows, strips, again, room, write⟩ := writes
    rw [← same.needs, ← same.unread] at strips
    rw [sizeFor, ← same.needs, ← same.unread, ← same.content, ← same.limit] at room
    simp only [knows, Bool.true_eq_false, if_false]
    split
    · rename_i needed
      have fine := stripFile_of_strips inside (strips needed)
      have limit := opened.maxFileSize_stripFile answers
      have content := content_stripFile inside (keeps.strip needed) fine
      rw [if_pos needed] at room
      cases result : opened.stripFile answers with
      | mk err after =>
        rw [result] at limit content fine
        simp only at fine
        rw [fine]
        exact appendData_of_room again (by rwa [content, limit]) write
    · rename_i needless
      rw [if_neg needless] at room
      exact appendData_of_room again room write

/-! ## Operations -/

/-- A push keeps the queue in order: no part of it overtakes what is in the file, nothing of it
is cut, and if a part of it is in the memory the rest can be written. -/
structure PushKeeps (buffer : MemfileBuffer) (answers : FileAnswers) (data : Bytes) : Prop where
  inOrder : buffer.unread = [] ∨ buffer.getFreeMemSpace = 0
  written : buffer.isOpen = true ∨ answers.opens = true →
    buffer.WriteKeeps answers (data.drop buffer.getFreeMemSpace)
  failed : buffer.getFreeMemSpace = 0 ∨ data.length ≤ buffer.getFreeMemSpace ∨
    buffer.Writes answers (data.drop buffer.getFreeMemSpace)

lemma filed_push (inside : self.OffsetInside) (keeps : self.PushKeeps answers data) :
    Filed (self.transferMem2Mem data).2 (self.push answers data).2
      (if (self.push answers data).1 = none then data.drop self.getFreeMemSpace else []) := by
  have kept : (self.transferMem2Mem data).2.OffsetInside := inside
  refine filed_writeInFile kept fun opens => ?_
  exact ⟨(keeps.written opens).strip, (keeps.written opens).uncut⟩

lemma PushKeeps.full (keeps : self.PushKeeps answers data) (inside : self.OffsetInside)
    (failed : (self.push answers data).1 ≠ none) : self.getFreeMemSpace = 0 := by
  rcases keeps.failed with full | fits | writes
  · exact full
  · rw [push, transferMem2Mem, drop_eq_nil_of_le fits, writeInFile] at failed
    exact absurd rfl failed
  · have kept : (self.transferMem2Mem data).2.OffsetInside := inside
    have written := keeps.written writes.opens
    obtain ⟨opens, knows, strips, again, room, write⟩ := writes
    exact absurd (writeInFile_of_writes kept ⟨written.strip, written.uncut⟩
      ⟨opens, knows, strips, again, room, write⟩) failed

/-- A push that succeeds adds its data to the queue, and one that fails adds nothing. -/
lemma queue_push (inside : self.OffsetInside) (keeps : self.PushKeeps answers data) :
    (self.push answers data).2.queue =
      self.queue ++ if (self.push answers data).1 = none then data else [] := by
  have filed := filed_push inside keeps
  have memory : (self.push answers data).2.memBuffer.bytes =
      self.memBuffer.bytes ++ data.take self.getFreeMemSpace :=
    (congrArg _ filed.memory).trans (self.memBuffer.bytes_push _)
  have file : (self.push answers data).2.unread = self.unread ++
      if (self.push answers data).1 = none then data.drop self.getFreeMemSpace else [] :=
    filed.unread
  rw [queue, queue, memory, file]
  by_cases fine : (self.push answers data).1 = none
  · rw [if_pos fine, if_pos fine]
    rcases keeps.inOrder with read | full
    · rw [read, nil_append, append_nil, append_assoc, take_append_drop]
    · rw [full, take_zero, drop_zero, append_nil, append_assoc]
  · rw [if_neg fine, if_neg fine, keeps.full inside fine, take_zero, append_nil, append_nil, append_nil]

variable {length : Nat} {after : MemfileBuffer} {err : String}

lemma drainMemory_spec (enough : length ≤ self.memBuffer.totalSize) :
    ∃ drained, self.drainMemory length = .ok drained ∧ drained.queue = self.queue.drop length ∧
      (self.OffsetInside → drained.OffsetInside) ∧
      (drained.TransferKeeps answers drained.getFreeMemSpace ↔
        self.TransferKeeps answers (self.getFreeMemSpace + length)) := by
  fun_cases drainMemory
  case case1 fault failed =>
    rw [MemoryBuffer.drain, if_pos enough] at failed
    cases failed
  case case2 memBuffer drained =>
    rw [MemoryBuffer.drain, if_pos enough] at drained
    cases drained
    have within := self.within
    refine ⟨_, rfl, ?_, id, ?_⟩
    · rw [← self.memBuffer.length_bytes] at enough
      rw [queue, queue, drop_append_of_le_length enough]
      exact congrArg (· ++ self.unread) (MemoryBuffer.flatten_drainChunks _ _)
    · have room : self.threshold - (self.memBuffer.totalSize - length) =
          self.getFreeMemSpace + length := by
        rw [getFreeMemSpace]
        omega
      rw [← room]
      exact Iff.rfl

lemma drainMemory_of_lt (missing : self.memBuffer.totalSize < length) :
    self.drainMemory length = .error .assertion := by
  rw [drainMemory]
  split
  · rename_i fault failed
    rw [MemoryBuffer.drain, if_neg (Nat.not_le_of_lt missing)] at failed
    cases failed
    rfl
  · rename_i memBuffer drained
    rw [MemoryBuffer.drain, if_neg (Nat.not_le_of_lt missing)] at drained
    cases drained

lemma drain_eq {drained after : MemfileBuffer} {err : Option String}
    (done : self.drainMemory length = .ok drained)
    (moved : drained.transferFile2Mem answers = .ok (err, after)) :
    self.drain answers length = .ok after := by
  rw [drain, done]
  change (drained.transferFile2Mem answers >>= _) = _
  rw [moved]
  rfl

/-! ## Runs -/

inductive Call where
  | push (data : Bytes)
  | pushVector (data : Bytes)
  | peek
  | drain (length : Nat)

/-- A call, with what the file system answers. -/
structure Occurrence where
  call : Call
  answers : FileAnswers

/-- A buffer in use. -/
structure Usage where
  buffer : MemfileBuffer
  /-- The data of the pushes that succeeded. -/
  accepted : Bytes
  /-- The bytes that were drained. -/
  obtained : Bytes
  fault : Option Fault

namespace Usage

/-- The result of a push. -/
def pushed (self : Usage) (data : Bytes) (result : Option String × MemfileBuffer) : Usage :=
  { self with
    buffer := result.2
    accepted := self.accepted ++ if result.1 = none then data else [] }

def perform (self : Usage) (occ : Occurrence) : Except Fault Usage :=
  match occ.call with
  | .push data => .ok (self.pushed data (self.buffer.push occ.answers data))
  | .pushVector data => do
      let result ← self.buffer.pushVector occ.answers data
      return self.pushed data result
  | .peek => do
      let (_, buffer) ← self.buffer.peek occ.answers
      return { self with buffer := buffer }
  | .drain length => do
      let buffer ← self.buffer.drain occ.answers length
      return { self with
        buffer := buffer
        obtained := self.obtained ++ self.buffer.memBuffer.bytes.take length }

/-- Nothing more happens after a fault. -/
def next (self : Usage) (occ : Occurrence) : Usage :=
  if self.fault.isSome then self
  else
    match self.perform occ with
    | .ok usage => usage
    | .error fault => { self with fault := some fault }

def new (threshold maxFileSize : Nat) (file temp : Option Bytes) : Usage :=
  ⟨.new threshold maxFileSize file temp, [], [], none⟩

/-- What was drained and what is in the queue is what was accepted, each byte once and in
order. -/
def Conserved (self : Usage) : Prop := self.obtained ++ self.buffer.queue = self.accepted

instance : DecidablePred Conserved := fun self =>
  inferInstanceAs (Decidable (self.obtained ++ self.buffer.queue = self.accepted))

/-- A push that succeeds adds all its bytes to the queue, and one that fails none. -/
def Adds (self : Usage) (data : Bytes) (result : Option String × MemfileBuffer) : Prop :=
  result.2.queue = self.buffer.queue ++ if result.1 = none then data else []

/-- What a call does to the queue. -/
def Served (self : Usage) (occ : Occurrence) : Prop :=
  self.fault = none →
    match occ.call with
    | .push data => self.Adds data (self.buffer.push occ.answers data)
    | .pushVector data =>
      ∃ result, self.buffer.pushVector occ.answers data = .ok result ∧ self.Adds data result
    | .peek =>
      ∃ result buffer, self.buffer.peek occ.answers = .ok (result, buffer) ∧
        buffer.queue = self.buffer.queue ∧
        (result.err = none →
          result.data <+: self.buffer.queue ∧ (result.data = [] → self.buffer.queue = []))
    | .drain length =>
      length ≤ self.buffer.memBuffer.totalSize →
        ∃ buffer, self.buffer.drain occ.answers length = .ok buffer ∧
          buffer.queue = self.buffer.queue.drop length

/-- What the file system has to answer for the queue to be kept, and the vectors that are not to
be pushed. -/
def Keeps (self : Usage) (occ : Occurrence) : Prop :=
  self.fault = none →
    match occ.call with
    | .push data => data = [] ∨ self.buffer.PushKeeps occ.answers data
    | .pushVector data =>
      data = [] ∨ self.buffer.PushKeeps occ.answers data ∧
        (self.buffer.getFreeMemSpace = 0 ∨ self.buffer.getFreeMemSpace < data.length)
    | .peek =>
      self.buffer.TransferKeeps occ.answers self.buffer.getFreeMemSpace ∧ self.buffer.Reachable
    | .drain length =>
      length ≤ self.buffer.memBuffer.totalSize →
        self.buffer.TransferKeeps occ.answers (self.buffer.getFreeMemSpace + length)

/-- The invariant. -/
structure Sound (usage : Usage) : Prop where
  inside : usage.buffer.OffsetInside
  conserved : usage.Conserved

variable {self : Usage} {occ : Occurrence} {answers : FileAnswers}

variable {buffer : MemfileBuffer}

lemma push_spec (inside : buffer.OffsetInside) (keeps : data = [] ∨ buffer.PushKeeps answers data) :
    (buffer.push answers data).2.OffsetInside ∧
      (buffer.push answers data).2.queue =
        buffer.queue ++ if (buffer.push answers data).1 = none then data else [] := by
  rcases keeps with rfl | keeps
  · have nothing : buffer.push answers [] = (none, (buffer.transferMem2Mem []).2) := by
      rw [push, writeInFile, if_pos]
      exact drop_nil
    have same : (buffer.transferMem2Mem []).2.memBuffer.bytes = buffer.memBuffer.bytes :=
      (buffer.memBuffer.bytes_push _).trans (by rw [take_nil, append_nil])
    rw [nothing, ite_self, append_nil, queue, same]
    exact ⟨inside, rfl⟩
  · exact ⟨(filed_push inside keeps).inside, queue_push inside keeps⟩

lemma peek_spec (inside : buffer.OffsetInside)
    (keeps : buffer.TransferKeeps answers buffer.getFreeMemSpace) (reachable : buffer.Reachable) :
    ∃ result after, buffer.peek answers = .ok (result, after) ∧ after.OffsetInside ∧
      after.queue = buffer.queue ∧
      (result.err = none → result.data <+: buffer.queue ∧ (result.data = [] → buffer.queue = [])) := by
  obtain ⟨err, after, done, transferred⟩ := transferFile2Mem_spec inside keeps
  rw [peek, done]
  cases err with
  | some => exact ⟨_, after, rfl, transferred.inside, transferred.queue, fun fine => by cases fine⟩
  | none =>
    refine ⟨_, after, rfl, transferred.inside, transferred.queue, fun _ => ⟨?_, ?_⟩⟩
    · rw [← transferred.queue]
      exact after.memBuffer.isPrefix_peek.trans (prefix_append _ _)
    · intro nothing
      have empty := after.memBuffer.bytes_of_peek nothing
      rw [← transferred.queue, queue, empty, transferred.served rfl reachable empty, append_nil]

lemma drain_spec (inside : buffer.OffsetInside) (enough : length ≤ buffer.memBuffer.totalSize)
    (keeps : buffer.TransferKeeps answers (buffer.getFreeMemSpace + length)) :
    ∃ after, buffer.drain answers length = .ok after ∧ after.OffsetInside ∧
      after.queue = buffer.queue.drop length := by
  obtain ⟨drained, done, rest, still, same⟩ := drainMemory_spec enough
  obtain ⟨err, after, moved, transferred⟩ := transferFile2Mem_spec (still inside) (same.mpr keeps)
  exact ⟨after, drain_eq done moved, transferred.inside, transferred.queue.trans rest⟩

lemma Sound.pushed {result : Option String × MemfileBuffer} (sound : self.Sound)
    (inside : result.2.OffsetInside) (adds : self.Adds data result) :
    (self.pushed data result).Sound := by
  refine ⟨inside, ?_⟩
  have conserved := sound.conserved
  rw [Conserved, Usage.pushed, adds, ← append_assoc, conserved]

lemma pushVector_eq
    (large : data = [] ∨ buffer.getFreeMemSpace = 0 ∨ buffer.getFreeMemSpace < data.length) :
    buffer.pushVector answers data = .ok (buffer.push answers data) := by
  rw [pushVector, if_neg]
  rintro ⟨room, fits, filled⟩
  rcases large with nothing | full | larger
  · exact filled nothing
  · exact room full
  · omega

lemma pushVector_keeps
    (keeps : data = [] ∨ buffer.PushKeeps answers data ∧
      (buffer.getFreeMemSpace = 0 ∨ buffer.getFreeMemSpace < data.length)) :
    (data = [] ∨ buffer.PushKeeps answers data) ∧
      buffer.pushVector answers data = .ok (buffer.push answers data) := by
  rcases keeps with nothing | ⟨keeps, large⟩
  · exact ⟨.inl nothing, pushVector_eq (.inl nothing)⟩
  · exact ⟨.inr keeps, pushVector_eq (.inr large)⟩

lemma served_of_keeps (sound : self.Sound) (keeps : self.Keeps occ) : self.Served occ := by
  intro fine
  have keeps := keeps fine
  cases kind : occ.call with
  | push =>
    rw [kind] at keeps
    exact (push_spec sound.inside keeps).2
  | pushVector =>
    rw [kind] at keeps
    obtain ⟨keeps, result⟩ := pushVector_keeps keeps
    exact ⟨_, result, (push_spec sound.inside keeps).2⟩
  | peek =>
    rw [kind] at keeps
    obtain ⟨result, after, done, -, spec⟩ := peek_spec sound.inside keeps.1 keeps.2
    exact ⟨result, after, done, spec⟩
  | drain =>
    rw [kind] at keeps
    intro enough
    obtain ⟨after, done, -, spec⟩ := drain_spec sound.inside enough (keeps enough)
    exact ⟨after, done, spec⟩

lemma sound_next (sound : self.Sound) (keeps : self.Keeps occ) : (self.next occ).Sound := by
  rw [next]
  split
  · exact sound
  rename_i running
  have keeps := keeps (by simpa using running)
  rw [perform]
  cases kind : occ.call with
  | push =>
    rw [kind] at keeps
    obtain ⟨inside, adds⟩ := push_spec sound.inside keeps
    exact sound.pushed inside adds
  | pushVector =>
    rw [kind] at keeps
    obtain ⟨keeps, result⟩ := pushVector_keeps keeps
    obtain ⟨inside, adds⟩ := push_spec sound.inside keeps
    simp only [result]
    exact sound.pushed inside adds
  | peek =>
    rw [kind] at keeps
    obtain ⟨result, after, done, inside, same, -⟩ := peek_spec sound.inside keeps.1 keeps.2
    simp only [done]
    refine ⟨inside, ?_⟩
    have conserved := sound.conserved
    rw [Conserved, ← same] at conserved
    exact conserved
  | drain length =>
    rw [kind] at keeps
    by_cases enough : length ≤ self.buffer.memBuffer.totalSize
    · obtain ⟨after, done, inside, rest⟩ := drain_spec sound.inside enough (keeps enough)
      simp only [done]
      refine ⟨inside, ?_⟩
      have front : self.buffer.memBuffer.bytes.take length = self.buffer.queue.take length := by
        rw [← self.buffer.memBuffer.length_bytes] at enough
        rw [queue, take_append_of_le_length enough]
      have conserved := sound.conserved
      change self.obtained ++ self.buffer.memBuffer.bytes.take length ++ after.queue = self.accepted
      rw [rest, front, append_assoc, take_append_drop, conserved]
    · have aborted := drainMemory_of_lt (Nat.lt_of_not_le enough)
      simp only [drain, aborted]
      exact ⟨sound.inside, sound.conserved⟩

/-- In every run of a buffer without an old file, in which no call finds what would cut, copy
wrongly or reorder the data, no byte is lost, repeated or moved. -/
theorem conserved_run (threshold maxFileSize : Nat) {file : Option Bytes} (temp : Option Bytes)
    (fresh : file.getD [] = []) (occs : List Occurrence)
    (keeps : EachStep next Keeps (new threshold maxFileSize file temp) occs) :
    Always next Conserved (new threshold maxFileSize file temp) occs ∧
      EachStep next Served (new threshold maxFileSize file temp) occs := by
  have start : (new threshold maxFileSize file temp).Sound := by
    refine ⟨Nat.zero_le _, ?_⟩
    change [] ++ ([] ++ (file.getD []).drop 0) = []
    rw [fresh]
    rfl
  have conserved : Always next Conserved (new threshold maxFileSize file temp) occs :=
    .of_invariant Sound sound_next Sound.conserved start keeps
  have served : EachStep next Served (new threshold maxFileSize file temp) occs :=
    EachStep.of_invariant (fun sound keeps => sound_next sound keeps)
      (fun sound keeps => served_of_keeps sound keeps) start keeps
  exact ⟨conserved, served⟩

/-- A file system in which nothing fails, with the number of bytes that a write of new data and
the writes of a copy take. -/
def working (write : Nat) (copies : List (Option Nat)) : FileAnswers where
  lastError := "Success (0)"
  transfer := ⟨true, true, [some 100]⟩
  opens := true
  knowsSize := true
  strip := ⟨true, true, true, true, true, [some 100], copies, true, true, true, true⟩
  knowsSizeAgain := true
  write := some write

/-- Five bytes are pushed, of which two fit in the memory, and one is drained. -/
def spillingRun : List Occurrence :=
  [⟨.push [1, 2, 3, 4, 5], working 100 []⟩, ⟨.drain 1, working 100 []⟩, ⟨.peek, working 100 []⟩]

theorem conserved_spillingRun :
    Always next Conserved (new 2 100 none none) spillingRun ∧
      EachStep next Served (new 2 100 none none) spillingRun := by
  refine conserved_run 2 100 none rfl spillingRun ⟨fun _ => .inr ?_, fun _ => ?_, fun _ => ?_, trivial⟩
  · refine ⟨.inl rfl, fun _ => ⟨?_, .inl (by decide), ?_⟩, ?_⟩
    · intro needed
      cases needed
    · rintro amount ⟨⟩
      exact .inr (by decide)
    · refine .inr (.inr ⟨.inr rfl, rfl, ?_, rfl, by decide, trivial⟩)
      intro needed
      cases needed
  · exact fun _ _ _ _ _ => .inl trivial
  · exact ⟨fun _ _ _ _ => .inl trivial, fun nothing => by cases nothing⟩

/-- The write of the three bytes that do not fit in the memory takes only one of them. -/
def shortWriteRun : List Occurrence := [⟨.push [1, 2, 3, 4, 5], working 1 []⟩]

/-- The file is to hold at most two bytes. -/
def fullRun : List Occurrence := [⟨.push [1, 2, 3, 4, 5], working 100 []⟩]

/-- When the file is stripped, each write of the copy takes one byte. -/
def shortCopyRun : List Occurrence :=
  [⟨.push [1, 2, 3, 4], working 100 []⟩, ⟨.drain 1, working 100 []⟩,
    ⟨.push [5], working 100 [some 1, some 1]⟩]

/-- In the first two runs the push succeeds although not all bytes are in the queue; in the
third one the queue has a byte twice and lacks another one. -/
theorem not_conserved_runs :
    ¬Always next Conserved (new 2 100 none none) shortWriteRun ∧
      ¬Always next Conserved (new 2 2 none none) fullRun ∧
      ¬Always next Conserved (new 1 100 none none) shortCopyRun ∧
      (shortCopyRun.foldl next (new 1 100 none none)).buffer.queue = [2, 3, 3, 5] := by
  refine ⟨fun always => ?_, fun always => ?_, fun always => ?_, by decide +kernel⟩
  · exact absurd always.last (by decide +kernel)
  · exact absurd always.last (by decide +kernel)
  · exact absurd always.last (by decide +kernel)

end Usage

/-! ## Failed reads -/

lemma eq_of_transferFile2Mem (keeps : self.TransferKeeps answers self.getFreeMemSpace)
    (failed : self.transferFile2Mem answers = .ok (some err, after)) : after = self := by
  revert failed
  fun_cases transferFile2Mem
  case case8 isOpen room known _ beyond left sought _ _ done outcome
      | case9 isOpen room known _ beyond left sought _ _ done outcome =>
    have reads : self.Reads answers := ⟨isOpen, room, known, beyond, left, sought⟩
    have nothing : done.1 = 0 := (reads.eq_zero_iff outcome).mpr keeps
    simp only [nothing, add_zero]
    rintro ⟨⟩
    rfl
  case case3 | case7 =>
    rintro ⟨⟩
    rfl
  all_goals exact fun failed => by cases failed

/-- A transfer that breaks off reports an error, and what it had read is gone. -/
lemma transferFile2Mem_of_not_keeps (breaks : ¬self.TransferKeeps answers self.getFreeMemSpace) :
    ∃ err after, self.transferFile2Mem answers = .ok (some err, after) ∧
      after.queue ≠ self.queue := by
  fun_cases transferFile2Mem
  case case8 isOpen room known _ beyond left sought _ _ done outcome
      | case9 isOpen room known _ beyond left sought _ _ done outcome =>
    have reads : self.Reads answers := ⟨isOpen, room, known, beyond, left, sought⟩
    have some : done.1 ≠ 0 := mt (reads.eq_zero_iff outcome).mp breaks
    refine ⟨_, _, rfl, fun same => ?_⟩
    have lengths := congrArg List.length (append_cancel_left same)
    rw [length_unread, length_unread] at lengths
    change self.content.length - (self.readOffset + done.1) =
      self.content.length - self.readOffset at lengths
    omega
  case case10 outcome =>
    have enough : min self.getFreeMemSpace self.unread.length ≤ self.unread.length :=
      min_le_right _ _
    have whole := @readAll_eq_none_iff answers.transfer.reads _ _ enough
    rw [length_unread] at whole
    rw [TransferKeeps, length_unread] at breaks
    exact absurd (fun _ _ _ _ => .inl (whole.mp outcome)) breaks
  case case1 closed => exact absurd (fun isOpen => by simp [closed] at isOpen) breaks
  case case2 full => exact absurd (fun _ room => absurd full room) breaks
  case case3 unknown => exact absurd (fun _ _ known => by simp [unknown] at known) breaks
  case case7 stuck => exact absurd (fun _ _ _ sought => by simp [stuck] at sought) breaks
  all_goals
    refine absurd (fun _ _ _ _ => .inl ?_) breaks
    rw [length_unread, show self.content.length - self.readOffset = 0 by omega, Nat.min_zero,
      Suffices]
    trivial

/-- A read that fails takes nothing off the queue: a peek that reports it can be repeated, and
a drain removes what it was asked to remove. -/
structure Recovers (buffer : MemfileBuffer) (answers : FileAnswers) (length : Nat) : Prop where
  peek {err : String} {data : Bytes} {after : MemfileBuffer} :
    buffer.peek answers = .ok (⟨some err, data⟩, after) →
      after.queue = buffer.queue ∧ ∀ later, after.peek later = buffer.peek later
  drain {drained after : MemfileBuffer} {err : String} :
    buffer.drainMemory length = .ok drained →
      drained.transferFile2Mem answers = .ok (some err, after) →
        buffer.drain answers length = .ok after ∧ after.queue = buffer.queue.drop length

lemma peek_of_failed (failed : self.transferFile2Mem answers = .ok (some err, after)) :
    self.peek answers = .ok (⟨some err, []⟩, after) := by
  rw [MemfileBuffer.peek, failed]
  rfl

lemma eq_of_peek {data : Bytes} (keeps : self.TransferKeeps answers self.getFreeMemSpace)
    (reported : self.peek answers = .ok (⟨some err, data⟩, after)) : after = self := by
  rw [MemfileBuffer.peek] at reported
  cases outcome : self.transferFile2Mem answers with
  | error =>
    rw [outcome] at reported
    cases reported
  | ok result =>
    obtain ⟨_ | err, buffer⟩ := result
    · rw [outcome] at reported
      cases reported
    · have same := eq_of_transferFile2Mem keeps outcome
      rw [outcome, same] at reported
      cases reported
      rfl

/-- A queue recovers from failed reads if and only if neither the transfer for a peek nor that
behind the drained bytes breaks off. -/
theorem recovers_iff (self : MemfileBuffer) (answers : FileAnswers) (length : Nat) :
    self.Recovers answers length ↔
      self.TransferKeeps answers self.getFreeMemSpace ∧
        (length ≤ self.memBuffer.totalSize →
          self.TransferKeeps answers (self.getFreeMemSpace + length)) := by
  constructor
  · intro recovers
    constructor
    · by_contra breaks
      obtain ⟨err, after, failed, lost⟩ := transferFile2Mem_of_not_keeps breaks
      exact lost (recovers.peek (peek_of_failed failed)).1
    · intro enough
      obtain ⟨drained, done, rest, -, same⟩ := drainMemory_spec enough
      rw [← same]
      by_contra breaks
      obtain ⟨err, after, failed, lost⟩ := transferFile2Mem_of_not_keeps breaks
      exact lost ((recovers.drain done failed).2.trans rest.symm)
  · rintro ⟨keeps, drains⟩
    refine ⟨fun reported => ?_, fun done failed => ⟨drain_eq done failed, ?_⟩⟩
    · rw [eq_of_peek keeps reported]
      exact ⟨rfl, fun _ => rfl⟩
    · by_cases enough : length ≤ self.memBuffer.totalSize
      · obtain ⟨drained, same, rest, -, moves⟩ := drainMemory_spec enough
        rw [done] at same
        cases same
        rw [eq_of_transferFile2Mem (moves.mpr (drains enough)) failed, rest]
      · rw [drainMemory_of_lt (Nat.lt_of_not_le enough)] at done
        cases done

/-- The memory has been drained, and three bytes are in the file. -/
def drainedBuffer : MemfileBuffer := ⟨.empty, 2, 100, true, 0, some [3, 4, 5], none, Nat.zero_le _⟩

def failing (reads : List (Option Nat)) : FileAnswers :=
  { Usage.working 100 [] with transfer := ⟨true, true, reads⟩ }

/-- A byte that was read before the failure is lost. -/
theorem not_recovers_secondRead : ¬drainedBuffer.Recovers (failing [some 1, none]) 0 := by
  intro recovers
  exact absurd (recovers.peek rfl).1 (by decide)

end MemfileBuffer

end TrustTunnel.Client
