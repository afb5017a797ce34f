import Librorc.Flash.Status
import Librorc.Flash.Write
import Mathlib.Data.List.GetD

/-!
# When a zero return of `flashWrite` can be trusted

The loop programs `bytes_read / 2` words a turn. Counting words against bytes
shows that the last byte is out of reach as soon as one chunk is odd or the
file ends early; what the chip does decides the rest.
-/

namespace Librorc

open Librorc.Lib

/-- Every result is an even number of bytes, and together they are the file. -/
def ReadsWhole : Nat → List ReadResult → Prop
  | left, [] => left = 0
  | _, .failed :: _ => False
  | left, .bytes count :: rest => count % 2 = 0 ∧ ReadsWhole (left - count) rest

/-- The words the loop programs. -/
def runWords (reads : List ReadResult) : Nat := (reads.map fun result => result.count / 2).sum

theorem runWords_bytes (count : Nat) (rest : List ReadResult) :
    runWords (.bytes count :: rest) = count / 2 + runWords rest := by
  simp [runWords, ReadResult.count]

theorem runWords_le {left : Nat} {reads : List ReadResult} (possible : ReadsPossible left reads) :
    2 * runWords reads ≤ left := by
  induction reads generalizing left with
  | nil => exact Nat.zero_le left
  | cons result rest ih =>
      cases result with
      | failed =>
          have later := ih possible
          simpa [runWords, ReadResult.count] using later
      | bytes count =>
          obtain ⟨-, -, fits, possible⟩ := possible
          have later := ih possible
          rw [runWords_bytes]
          omega

/-- As many words as the file has need even chunks and the whole file. -/
theorem readsWhole_of_runWords {left : Nat} {reads : List ReadResult}
    (possible : ReadsPossible left reads) (noFailure : ∀ result ∈ reads, result ≠ .failed)
    (enough : left ≤ 2 * runWords reads) : ReadsWhole left reads := by
  induction reads generalizing left with
  | nil => exact Nat.le_zero.mp enough
  | cons result rest ih =>
      cases result with
      | failed => exact absurd rfl (noFailure .failed List.mem_cons_self)
      | bytes count =>
          obtain ⟨-, -, fits, possible⟩ := possible
          have later := runWords_le possible
          rw [runWords_bytes] at enough
          refine ⟨by omega, ih possible ?_ ?_⟩
          · intro result mem
            exact noFailure result (List.mem_cons_of_mem _ mem)
          · omega

theorem noFailure_of_readsWhole {left : Nat} {reads : List ReadResult}
    (whole : ReadsWhole left reads) : ∀ result ∈ reads, result ≠ .failed := by
  induction reads generalizing left with
  | nil =>
      intro result mem
      cases mem
  | cons result rest ih =>
      cases result with
      | failed => exact whole.elim
      | bytes count =>
          intro result mem
          rcases List.mem_cons.mp mem with rfl | later
          · simp
          · exact ih whole.2 result later

theorem words_toNat {count : Nat} (fits : count ≤ writeBufferBytes) :
    ((ReadResult.bytes count).bytesRead / 2).toNat = count / 2 := by
  unfold writeBufferBytes at fits
  unfold ReadResult.bytesRead
  rw [BitVec.toNat_udiv, BitVec.toNat_ofNat, Nat.mod_eq_of_lt (by omega)]
  rfl

theorem length_toNat {count : Nat} (fits : count ≤ writeBufferBytes) :
    (((ReadResult.bytes count).bytesRead / 2).setWidth 16).toNat = count / 2 := by
  rw [BitVec.toNat_setWidth, words_toNat fits]
  unfold writeBufferBytes at fits
  exact Nat.mod_eq_of_lt (by omega)

/-- Word addresses as natural numbers. -/
theorem wordAddr_eq_iff {a i w : Nat} (reach : a + i < 2 ^ 32) (bound : w < 2 ^ 32) :
    (BitVec.ofNat 64 a + BitVec.ofNat 64 i).setWidth 32 = BitVec.ofNat 32 w ↔ a + i = w := by
  rw [← BitVec.toNat_inj, BitVec.toNat_setWidth, BitVec.toNat_add, BitVec.toNat_ofNat,
    BitVec.toNat_ofNat, BitVec.toNat_ofNat]
  omega

theorem ProgramOutcome.ret_of_completed {outcome : ProgramOutcome}
    (completed : outcome.completed = true) : outcome.ret = 0 := by
  cases outcome <;> first | rfl | cases completed

namespace Flash

variable {σ : Type*} (f : Flash σ)

/-- The chip answers the words of the buffer, one after the other. -/
def ReadsBack (addr : Word64) (data : Nat → Word16) : Nat → Nat → σ → Prop
  | 0, _, _ => True
  | left + 1, i, s =>
      let answer := f.get ((addr + BitVec.ofNat 64 i).setWidth 32) s
      answer.1 = data i ∧ ReadsBack addr data left (i + 1) answer.2

/-- The chip programs a chunk: the block can be unlocked, the buffer comes free
in time, and the first ready status after the confirm shows no other bit. -/
def ChipPrograms (addr : Word32) (length : Word16) (data : Nat → Word16) (s : σ) : Prop :=
  ∃ arch s', f.programSetup addr s = (.ok arch, s') ∧
    ∃ status s'', poll (f.get addr) statusBusy cfgFlashTimeout s' = .ready status s'' ∧
      PolledWords statusBusy cfgFlashTimeout (· = flashPecBusy) (fun _ => False)
        (readWord (f.get arch.blkaddr) (f.fillBuffer addr length data arch.blkaddr s''))

/-- The chip takes every chunk: it programs the chunk, and every word reads
back as written. -/
def ChipAccepts (content : List Word8) : List ReadResult → Nat → (Nat → Word8) → Word64 → σ → Prop
  | [], _, _, _, _ => True
  | result :: rest, pos, buffer, addr, s =>
      let data := bufferWord (result.fill content pos buffer)
      let words := result.bytesRead / 2
      let s' := (f.programBuffer (addr.setWidth 32) (words.setWidth 16) data s).2
      f.ChipPrograms (addr.setWidth 32) (words.setWidth 16) data s ∧
        f.ReadsBack addr data words.toNat 0 s' ∧
        ChipAccepts content rest (pos + result.count) (result.fill content pos buffer)
          (addr + words) (f.verifyWords addr data words.toNat 0 s').2

theorem finishProgram_completed_iff (blkaddr : Word32) (outcome : PollOutcome Word16 σ) :
    (f.finishProgram blkaddr outcome).1.completed = true ↔
      outcome.Ends (· = flashPecBusy) (fun _ => False) := by
  cases outcome with
  | timeout status s =>
      refine iff_of_false ?_ id
      intro completed
      cases completed
  | ready status s =>
      show _ ↔ status = flashPecBusy
      by_cases clean : status = flashPecBusy
      · simp [finishProgram, clean, ProgramOutcome.completed]
      · simp [finishProgram, clean, ProgramOutcome.completed]

theorem programPoll_completed_iff (addr : Word32) (length : Word16) (data : Nat → Word16)
    (blkaddr : Word32) (s : σ) :
    (f.programPoll addr length data blkaddr s).1.completed = true ↔
      ∃ status s', poll (f.get addr) statusBusy cfgFlashTimeout s = .ready status s' ∧
        PolledWords statusBusy cfgFlashTimeout (· = flashPecBusy) (fun _ => False)
          (readWord (f.get blkaddr) (f.fillBuffer addr length data blkaddr s')) := by
  unfold programPoll
  simp only [polledWords_iff, ← finishProgram_completed_iff f blkaddr]
  cases buffer : poll (f.get addr) statusBusy cfgFlashTimeout s with
  | timeout status s' =>
      refine iff_of_false ?_ ?_
      · intro completed
        cases completed
      · rintro ⟨status', s'', ready, -⟩
        cases ready
  | ready status s' =>
      constructor
      · intro completed
        exact ⟨status, s', rfl, completed⟩
      · rintro ⟨status', s'', ready, completed⟩
        obtain ⟨-, rfl⟩ := PollOutcome.ready.inj ready
        exact completed

/-- `programBuffer` completes exactly when the chip programs the chunk. -/
theorem programBuffer_completed_iff (addr : Word32) (length : Word16) (data : Nat → Word16)
    (s : σ) : (f.programBuffer addr length data s).1.completed = true ↔
      f.ChipPrograms addr length data s := by
  unfold programBuffer ChipPrograms
  rcases setup : f.programSetup addr s with ⟨outcome | arch, s'⟩
  · -- an early exit
    have negative := f.programSetup_error_neg setup
    constructor
    · intro completed
      rw [ProgramOutcome.ret_of_completed completed] at negative
      exact absurd negative (Int.lt_irrefl 0)
    · rintro ⟨arch, s'', reached, -⟩
      cases reached
  · refine (f.programPoll_completed_iff addr length data arch.blkaddr s').trans ?_
    constructor
    · intro programmed
      exact ⟨arch, s', rfl, programmed⟩
    · rintro ⟨arch', s'', reached, programmed⟩
      obtain ⟨sameArch, rfl⟩ := Prod.mk.inj reached
      obtain rfl := Except.ok.inj sameArch
      exact programmed

/-- The comparison goes through to the end when the chip reads back. -/
theorem verifyWords_iff (addr : Word64) (data : Nat → Word16) (left i : Nat) (s : σ) :
    (∀ j < left, (f.verifyWords addr data left i s).1[j]? = some (data (i + j))) ↔
      f.ReadsBack addr data left i s := by
  induction left generalizing i s with
  | zero =>
      refine iff_of_true ?_ trivial
      intro j none
      exact absurd none (Nat.not_lt_zero j)
  | succ left ih =>
      simp only [ReadsBack, ← ih]
      by_cases same : data i = (f.get ((addr + BitVec.ofNat 64 i).setWidth 32) s).1
      · have turn : (f.verifyWords addr data (left + 1) i s).1 =
            (f.get ((addr + BitVec.ofNat 64 i).setWidth 32) s).1 ::
              (f.verifyWords addr data left (i + 1)
                (f.get ((addr + BitVec.ofNat 64 i).setWidth 32) s).2).1 := by
          simp only [verifyWords, same, ne_eq, not_true_eq_false, if_false]
        rw [turn]
        constructor
        · intro all
          refine ⟨same.symm, ?_⟩
          intro j below
          have later := all (j + 1) (Nat.succ_lt_succ below)
          rw [List.getElem?_cons_succ] at later
          rw [later, show i + (j + 1) = i + 1 + j by omega]
        · rintro ⟨-, later⟩ j below
          cases j with
          | zero => exact congrArg some same.symm
          | succ j =>
              rw [List.getElem?_cons_succ, later j (Nat.lt_of_succ_lt_succ below),
                show i + (j + 1) = i + 1 + j by omega]
      · have turn : (f.verifyWords addr data (left + 1) i s).1 =
            [(f.get ((addr + BitVec.ofNat 64 i).setWidth 32) s).1] := by
          simp only [verifyWords, ne_eq, same, not_false_eq_true, if_true]
        rw [turn]
        refine iff_of_false ?_ ?_
        · intro all
          have first := all 0 (Nat.succ_pos left)
          exact same (Option.some.inj first).symm
        · rintro ⟨first, -⟩
          exact same first.symm

/-- What the turn of a completed `programBuffer` goes on with. -/
theorem writeTurn_of_completed {content : List Word8} {result : ReadResult} {pos : Nat}
    {buffer : Nat → Word8} {addr : Word64} {s : σ}
    (completed : (f.programBuffer (addr.setWidth 32) ((result.bytesRead / 2).setWidth 16)
      (bufferWord (result.fill content pos buffer)) s).1.completed = true) :
    let data := bufferWord (result.fill content pos buffer)
    let words := result.bytesRead / 2
    let programmed := f.programBuffer (addr.setWidth 32) (words.setWidth 16) data s
    let verified := f.verifyWords addr data words.toNat 0 programmed.2
    f.writeTurn content result pos buffer addr s =
      (⟨result, addr, result.fill content pos buffer, programmed.1, verified.1⟩, verified.2) := by
  have goesOn : ¬(f.programBuffer (addr.setWidth 32) ((result.bytesRead / 2).setWidth 16)
      (bufferWord (result.fill content pos buffer)) s).1.ret < 0 := by
    rw [ProgramOutcome.ret_of_completed completed]
    exact Int.lt_irrefl 0
  simp only [writeTurn, if_neg goesOn]

/-- The chip takes the chunks when it takes the first, and then the others. -/
theorem chipAccepts_cons_iff (content : List Word8) (result : ReadResult) (rest : List ReadResult)
    (pos : Nat) (buffer : Nat → Word8) (addr : Word64) (s : σ) :
    f.ChipAccepts content (result :: rest) pos buffer addr s ↔
      let turn := f.writeTurn content result pos buffer addr s
      turn.1.Accepted ∧
        f.ChipAccepts content rest (pos + result.count) turn.1.buffer (addr + turn.1.words)
          turn.2 := by
  rw [ChipAccepts, ← programBuffer_completed_iff]
  by_cases completed : (f.programBuffer (addr.setWidth 32)
      ((result.bytesRead / 2).setWidth 16)
      (bufferWord (result.fill content pos buffer)) s).1.completed = true
  · simp only [f.writeTurn_of_completed completed, WriteRecord.Accepted, WriteRecord.words,
      WriteRecord.data, ← verifyWords_iff, Nat.zero_add, and_assoc]
  · refine iff_of_false ?_ ?_
    · rintro ⟨taken, -⟩
      exact completed taken
    · rintro ⟨⟨taken, -⟩, -⟩
      exact completed taken

variable {content : List Word8}

/-- A turn that is accepted goes on. -/
theorem writeLoop_cons_of_accepted {result : ReadResult} {rest : List ReadResult} {pos : Nat}
    {buffer : Nat → Word8} {addr : Word64} {s : σ}
    (accepted : (f.writeTurn content result pos buffer addr s).1.Accepted) :
    (f.writeLoop content (result :: rest) pos buffer addr s).1 =
      let turn := f.writeTurn content result pos buffer addr s
      turn.1 :: (f.writeLoop content rest (pos + result.count) turn.1.buffer
        (addr + turn.1.words) turn.2).1 := by
  have ret := ProgramOutcome.ret_of_completed accepted.1
  have goesOn : ¬(f.writeTurn content result pos buffer addr s).1.outcome.ret < 0 := by
    rw [ret]
    decide
  simp only [writeLoop, if_neg goesOn]

/-- The turn of the loop is recorded in any case. -/
theorem writeTurn_mem_writeLoop (content : List Word8) (result : ReadResult)
    (rest : List ReadResult) (pos : Nat) (buffer : Nat → Word8) (addr : Word64) (s : σ) :
    (f.writeTurn content result pos buffer addr s).1 ∈
      (f.writeLoop content (result :: rest) pos buffer addr s).1 := by
  simp only [writeLoop]
  split
  · exact List.mem_cons_self
  · exact List.mem_cons_self

theorem writeLoop_noFailure_iff (reads : List ReadResult) (pos : Nat) (buffer : Nat → Word8)
    (addr : Word64) (s : σ) :
    (∀ record ∈ (f.writeLoop content reads pos buffer addr s).1, ¬record.Failed) ↔
      (∀ result ∈ reads, result ≠ .failed) ∧ f.ChipAccepts content reads pos buffer addr s := by
  induction reads generalizing pos buffer addr s with
  | nil =>
      refine iff_of_true ?_ ⟨?_, trivial⟩
      · intro record mem
        cases mem
      · intro result mem
        cases mem
  | cons result rest ih =>
      have recorded := f.writeTurn_mem_writeLoop content result rest pos buffer addr s
      constructor
      · intro noFailure
        obtain ⟨read, accepted⟩ := not_or.mp (noFailure _ recorded)
        replace accepted := not_not.mp accepted
        rw [f.writeLoop_cons_of_accepted accepted] at noFailure
        obtain ⟨reads, accepts⟩ := (ih _ _ _ _).mp
          (fun record mem => noFailure record (List.mem_cons_of_mem _ mem))
        refine ⟨?_, (f.chipAccepts_cons_iff _ _ _ _ _ _ _).mpr ⟨accepted, accepts⟩⟩
        intro result' mem
        rcases List.mem_cons.mp mem with rfl | later
        · exact read
        · exact reads result' later
      · rintro ⟨reads, accepts⟩
        obtain ⟨accepted, accepts⟩ := (f.chipAccepts_cons_iff _ _ _ _ _ _ _).mp accepts
        rw [f.writeLoop_cons_of_accepted accepted]
        intro record mem
        rcases List.mem_cons.mp mem with rfl | later
        · exact not_or.mpr ⟨reads result List.mem_cons_self, not_not_intro accepted⟩
        · exact (ih _ _ _ _).mpr
            ⟨fun result' mem' => reads result' (List.mem_cons_of_mem _ mem'), accepts⟩ record later

/-- The words of a turn that is not failed lie where the loop stands. -/
theorem keepsByte_turn_addr {count pos a k : Nat} {buffer : Nat → Word8} {s : σ} {byte : Word8}
    (fits : count ≤ writeBufferBytes) (reach : a + count / 2 < 2 ^ 32) (bound : k / 2 < 2 ^ 32)
    (keeps : (f.writeTurn content (.bytes count) pos buffer (BitVec.ofNat 64 a) s).1.KeepsByte
      k byte) : k / 2 < a + count / 2 := by
  obtain ⟨-, i, below, place, -⟩ := keeps
  have inChunk : i < count / 2 := (length_toNat fits) ▸ below
  have same := (wordAddr_eq_iff (by omega) bound).mp place
  omega

/-- Where the next turn stands. -/
theorem nextAddr {count : Nat} (fits : count ≤ writeBufferBytes) (a : Nat) :
    BitVec.ofNat 64 a + (ReadResult.bytes count).bytesRead / 2 =
      BitVec.ofNat 64 (a + count / 2) := by
  have words : (ReadResult.bytes count).bytesRead / 2 = BitVec.ofNat 64 (count / 2) := by
    rw [← words_toNat fits, BitVec.ofNat_toNat, BitVec.setWidth_eq]
  rw [words, BitVec.ofNat_add]

/-- No byte is kept behind the words of the run. -/
theorem keepsByte_addr_lt {left pos a k : Nat} {reads : List ReadResult} {buffer : Nat → Word8}
    {s : σ} {record : WriteRecord} {byte : Word8} (possible : ReadsPossible left reads)
    (noFailure : ∀ result ∈ reads, result ≠ .failed)
    (accepts : f.ChipAccepts content reads pos buffer (BitVec.ofNat 64 a) s)
    (reach : a + runWords reads < 2 ^ 32) (bound : k / 2 < 2 ^ 32)
    (mem : record ∈ (f.writeLoop content reads pos buffer (BitVec.ofNat 64 a) s).1)
    (keeps : record.KeepsByte k byte) : k / 2 < a + runWords reads := by
  induction reads generalizing left pos a buffer s with
  | nil => cases mem
  | cons result rest ih =>
      cases result with
      | failed => exact absurd rfl (noFailure .failed List.mem_cons_self)
      | bytes count =>
          obtain ⟨-, fits, -, possible⟩ := possible
          obtain ⟨accepted, accepts⟩ := (f.chipAccepts_cons_iff _ _ _ _ _ _ _).mp accepts
          rw [runWords_bytes] at reach ⊢
          rw [f.writeLoop_cons_of_accepted accepted] at mem
          rcases List.mem_cons.mp mem with rfl | later
          · have here := f.keepsByte_turn_addr fits (by omega) bound keeps
            omega
          · have next : BitVec.ofNat 64 a + (f.writeTurn content (.bytes count) pos buffer
                (BitVec.ofNat 64 a) s).1.words = BitVec.ofNat 64 (a + count / 2) := nextAddr fits a
            simp only [next] at later accepts
            have there := ih possible
              (fun result mem' => noFailure result (List.mem_cons_of_mem _ mem')) accepts
              (by omega) later
            omega

/-- A turn of an even chunk that the chip accepts keeps every byte of the
chunk. -/
theorem writeTurn_keepsByte {count pos k : Nat} {buffer : Nat → Word8} {s : σ}
    (fits : count ≤ writeBufferBytes) (evenPos : pos % 2 = 0) (evenCount : count % 2 = 0)
    (small : k / 2 < 2 ^ 32) (inFile : k < content.length) (lower : pos ≤ k)
    (upper : k < pos + count)
    (accepted : (f.writeTurn content (.bytes count) pos buffer
      (BitVec.ofNat 64 (pos / 2)) s).1.Accepted) :
    (f.writeTurn content (.bytes count) pos buffer
      (BitVec.ofNat 64 (pos / 2)) s).1.KeepsByte k content[k] := by
  have index : k / 2 - pos / 2 = (k - pos) / 2 := by omega
  have parity : k % 2 = (k - pos) % 2 := by omega
  refine ⟨accepted, k / 2 - pos / 2, ?_, ?_, ?_⟩
  · refine lt_of_lt_of_eq ?_ (length_toNat fits).symm
    omega
  · exact (wordAddr_eq_iff (by omega) small).mpr (by omega)
  · rw [index, parity]
    refine (wordByte_bufferWord _ (k - pos)).trans ?_
    show (if k - pos < count then content.getD (pos + (k - pos)) 0 else buffer (k - pos)) =
      content[k]
    rw [if_pos (by omega), Nat.add_sub_cancel' lower, List.getD_eq_getElem _ _ inFile]

/-- If the reads are the whole file, in even chunks, and the chip accepts
them, every byte is kept. -/
theorem writeLoop_keepsByte {left pos : Nat} {reads : List ReadResult} {buffer : Nat → Word8}
    {s : σ} (possible : ReadsPossible left reads) (whole : ReadsWhole left reads)
    (evenPos : pos % 2 = 0) (file : pos + left = content.length)
    (small : content.length ≤ flashFileSize)
    (accepts : f.ChipAccepts content reads pos buffer (BitVec.ofNat 64 (pos / 2)) s) (k : Nat)
    (lower : pos ≤ k) (inFile : k < content.length) :
    ∃ record ∈ (f.writeLoop content reads pos buffer (BitVec.ofNat 64 (pos / 2)) s).1,
      record.KeepsByte k content[k] := by
  induction reads generalizing left pos buffer s with
  | nil =>
      have none : left = 0 := whole
      omega
  | cons result rest ih =>
      cases result with
      | failed => exact whole.elim
      | bytes count =>
          obtain ⟨-, fits, inLeft, possible⟩ := possible
          obtain ⟨evenCount, whole⟩ := whole
          obtain ⟨accepted, accepts⟩ := (f.chipAccepts_cons_iff _ _ _ _ _ _ _).mp accepts
          rw [f.writeLoop_cons_of_accepted accepted]
          rcases Nat.lt_or_ge k (pos + count) with here | there
          · have bound : k / 2 < 2 ^ 32 := by
              unfold flashFileSize at small
              omega
            exact ⟨_, List.mem_cons_self, f.writeTurn_keepsByte fits evenPos evenCount bound inFile
              lower here accepted⟩
          · have next : BitVec.ofNat 64 (pos / 2) + (f.writeTurn content (.bytes count) pos buffer
                (BitVec.ofNat 64 (pos / 2)) s).1.words =
                BitVec.ofNat 64 ((pos + count) / 2) := by
              refine (nextAddr fits (pos / 2)).trans ?_
              congr 1
              omega
            simp only [next] at accepts ⊢
            obtain ⟨record, mem, keeps⟩ := ih possible whole (show (pos + count) % 2 = 0 by omega)
              (show pos + count + (left - count) = content.length by omega) accepts there
            exact ⟨record, List.mem_cons_of_mem _ mem, keeps⟩

/-! ## The whole write -/

/-- The file passes the checks and the erase reports success; the loop starts
in `s'`. -/
def WriteStarts (file : InputFile) (s s' : σ) : Prop :=
  file.accessible = true ∧ file.content.length ≤ flashFileSize ∧ file.opens = true ∧
    f.erase file.content.length s = some (0, s')

theorem flashWrite_starts {file : InputFile} (heap : Nat → Word8) {s s' : σ}
    (starts : f.WriteStarts file s s') :
    ∃ s'', f.flashWrite (some file) heap s =
      some (⟨0, (f.writeLoop file.content file.reads 0 heap 0 s').1⟩, s'') := by
  obtain ⟨accessible, small, opens, erased⟩ := starts
  refine ⟨(f.writeLoop file.content file.reads 0 heap 0 s').2, ?_⟩
  simp only [flashWrite, accessible, opens, erased, Bool.true_eq_false, if_false,
    if_neg (not_lt.mpr small), ne_eq, not_true_eq_false]

/-- Without a start the write is rejected. -/
theorem flashWrite_rejects {file : InputFile} (heap : Nat → Word8) {s : σ}
    (never : ¬∃ s', f.WriteStarts file s s') :
    ∃ s'', f.flashWrite (some file) heap s = some (⟨-1, []⟩, s'') := by
  obtain ⟨⟨status, s'⟩, erased⟩ :=
    Option.isSome_iff_exists.mp (f.erase_isSome file.content.length s)
  unfold flashWrite
  simp only [erased]
  split
  · exact ⟨s, rfl⟩
  · split
    · exact ⟨s, rfl⟩
    · split
      · exact ⟨s, rfl⟩
      · split
        · exact ⟨s', rfl⟩
        · rename_i accessible small opens success
          refine absurd ⟨s', ?_, not_lt.mp small, ?_, ?_⟩ never
          · simpa using accessible
          · simpa using opens
          · rw [erased, not_not.mp success]

/-- A run that starts is sound exactly when the reads are the whole file in
even chunks and the chip accepts every chunk. -/
theorem writeLoop_sound_iff (file : InputFile) (small : file.content.length ≤ flashFileSize)
    (heap : Nat → Word8) (s : σ) :
    (WriteResult.mk 0 (f.writeLoop file.content file.reads 0 heap 0 s).1).Sound file.content ↔
      ReadsWhole file.content.length file.reads ∧
        f.ChipAccepts file.content file.reads 0 heap 0 s := by
  have count := runWords_le file.possible
  constructor
  · intro sound
    obtain ⟨noFailure, kept⟩ := sound rfl
    obtain ⟨reads, accepts⟩ := (f.writeLoop_noFailure_iff _ _ _ _ _).mp noFailure
    refine ⟨readsWhole_of_runWords file.possible reads ?_, accepts⟩
    -- the last byte is within the words of the run
    rcases Nat.eq_zero_or_pos file.content.length with empty | some
    · omega
    · obtain ⟨record, mem, keeps⟩ := kept (file.content.length - 1) (by omega)
      unfold flashFileSize at small
      have last := f.keepsByte_addr_lt (a := 0) file.possible reads accepts (by omega) (by omega)
        mem keeps
      omega
  · rintro ⟨whole, accepts⟩ -
    refine ⟨(f.writeLoop_noFailure_iff _ _ _ _ _).mpr
      ⟨noFailure_of_readsWhole whole, accepts⟩, ?_⟩
    intro k inFile
    exact f.writeLoop_keepsByte file.possible whole rfl (Nat.zero_add _) small accepts k
      (Nat.zero_le k) inFile

/-- `flashWrite` returns, and its zero is sound exactly when, in a run that gets
past the erase, the reads are the whole file in even chunks and the chip accepts
every chunk. -/
theorem flashWrite_sound_iff (file : InputFile) (heap : Nat → Word8) (s : σ) :
    ∃ result s', f.flashWrite (some file) heap s = some (result, s') ∧
      (result.Sound file.content ↔ ∀ start, f.WriteStarts file s start →
        ReadsWhole file.content.length file.reads ∧
          f.ChipAccepts file.content file.reads 0 heap 0 start) := by
  by_cases starts : ∃ start, f.WriteStarts file s start
  · obtain ⟨start, starts⟩ := starts
    obtain ⟨s', written⟩ := f.flashWrite_starts heap starts
    refine ⟨_, s', written, (f.writeLoop_sound_iff file starts.2.1 heap start).trans ?_⟩
    constructor
    · intro good start' starts'
      have same := (starts.2.2.2.symm.trans starts'.2.2.2)
      obtain ⟨-, rfl⟩ := Prod.mk.inj (Option.some.inj same)
      exact good
    · intro all
      exact all start starts
  · obtain ⟨s', rejected⟩ := f.flashWrite_rejects heap starts
    refine ⟨_, s', rejected, iff_of_true ?_ ?_⟩
    · intro zero
      exact absurd zero (by decide)
    · intro start starts'
      exact absurd ⟨start, starts'⟩ starts

end Flash

/-- A file of one byte. -/
def oneByteFile : InputFile :=
  ⟨true, true, [0x5a], [.bytes 1], by decide, by decide, by decide, trivial⟩

/-- A file of one word. -/
def oneWordFile : InputFile :=
  ⟨true, true, [0x12, 0x34], [.bytes 2], by decide, by decide, by decide, trivial⟩

/-- The chip is always ready and never reports an error. The single byte is
never programmed; the single word reads back wrong; both writes return 0. -/
theorem flashWrite_unsound :
    (∃ result s', (constantFlash flashPecBusy).flashWrite (some oneByteFile) (fun _ => 0) () =
        some (result, s') ∧ result.ret = 0 ∧ ¬result.Sound oneByteFile.content) ∧
    (∃ result s', (constantFlash flashPecBusy).flashWrite (some oneWordFile) (fun _ => 0) () =
        some (result, s') ∧ result.ret = 0 ∧ ¬result.Sound oneWordFile.content) := by
  have erased (file : InputFile) (small : file.content.length = 1 ∨ file.content.length = 2) :
      (constantFlash flashPecBusy).erase file.content.length () = some (0, ()) := by
    rcases small with one | two
    · rw [one]
      decide +kernel
    · rw [two]
      decide +kernel
  constructor
  · obtain ⟨s', written⟩ := (constantFlash flashPecBusy).flashWrite_starts (fun _ => 0)
      ⟨rfl, by decide, rfl, erased oneByteFile (.inl rfl)⟩
    refine ⟨_, s', written, rfl, ?_⟩
    rw [Flash.writeLoop_sound_iff _ _ (by decide)]
    rintro ⟨⟨even, -⟩, -⟩
    exact absurd even (by omega)
  · obtain ⟨s', written⟩ := (constantFlash flashPecBusy).flashWrite_starts (fun _ => 0)
      ⟨rfl, by decide, rfl, erased oneWordFile (.inr rfl)⟩
    refine ⟨_, s', written, rfl, ?_⟩
    rw [Flash.writeLoop_sound_iff _ _ (by decide)]
    rintro ⟨-, -, ⟨same, -⟩, -⟩
    exact absurd same (by decide +kernel)

end Librorc
