import Librorc.Flash.IdealChip
import Librorc.Flash.WriteSound

/-!
# A file through an ideal flash

On an ideal chip `flashWrite` puts the file at the start of the selected chip,
leaves the rest of the last erased block blank and touches nothing else, and a
`dump` reads it back.
-/

namespace Librorc

open Librorc.Lib

/-! ## Dumping -/

/-- `FLASH_SIZE`. -/
def flashSize : Nat := 16777216

/-- The bytes of a word in memory. -/
def wordBytes (w : Word16) : List Word8 := [wordByte w 0, wordByte w 1]

namespace Flash

section

variable {σ : Type*} (f : Flash σ)

/-- The words from `i` on. -/
def dumpWords : Nat → Nat → σ → List Word16 × σ
  | 0, _, s => ([], s)
  | left + 1, i, s =>
      let (w, s) := f.get (BitVec.ofNat 32 i) s
      let (words, s) := dumpWords left (i + 1) s
      (w :: words, s)

/-- `dump`, with the bytes passed to `fwrite`. `opens` and `written` say whether
`fopen` and `fwrite` succeed. -/
def dump (opens written : Bool) (s : σ) : Int × List Word8 × σ :=
  if opens = false then (-1, [], s)
  else
    let (words, s) := f.dumpWords (flashSize / 2) 0 s
    (if written then 0 else -1, words.flatMap wordBytes, s)

end

end Flash

/-- `read()` delivers full chunks; only the last one may be shorter. -/
def FullChunks : Nat → List ReadResult → Prop
  | left, [] => left = 0
  | _, .failed :: _ => False
  | left, .bytes count :: rest =>
      0 < count ∧ count = min left writeBufferBytes ∧ FullChunks (left - count) rest

/-- What a successful write leaves behind. -/
structure RoundTrip (timing : ChipTiming) (select : Fin 2) (content : List Word8)
    (s s' : FlashDevice) : Prop where
  /-- The chip is in read array mode. -/
  reads : ∀ x < chipWords, (idealFlash timing select).get (BitVec.ofNat 32 x) s' =
    ((s' select).mem x, s')
  dump : ((idealFlash timing select).dump true true s').2.1.take content.length = content
  blank : ∀ x < chipWords, content.length ≤ 2 * x → 2 * sectorOf x < content.length →
    (s' select).mem x = 0xffff
  kept : ∀ x < chipWords, content.length ≤ 2 * sectorOf x → (s' select).mem x = (s select).mem x
  other : ∀ chip, chip ≠ select.val → s' chip = s chip

/-! ## Blocks -/

/-- A chunk lies in one block. -/
theorem sectorOf_chunk {a i : Nat} (aligned : a % 32 = 0) (inside : i < 32) :
    sectorOf (a + i) = sectorOf a := by
  rcases Nat.lt_or_ge a 0x7f0000 with main | top
  · have below : a + i < 0x7f0000 := by omega
    rw [sectorOf_of_lt main, sectorOf_of_lt below]
    omega
  · rw [sectorOf_of_le top, sectorOf_of_le (Nat.le_add_right_of_le top)]
    omega

namespace Flash

variable (timing : ChipTiming) (select : Fin 2) (s : FlashDevice) (mem : Nat → Word16)
  (locked : Nat → Bool) (errors : Word16) (started : Nat)

theorem get_resting {addr : Word32} (inChip : addr.toNat < chipWords) :
    (idealFlash timing select).get addr (s.withChip select (.resting mem locked errors started)) =
      (mem addr.toNat, s.withChip select (.resting mem locked errors started)) :=
  get_withChip timing select s _ inChip

/-! ## Erasing -/

/-- Erasing from a block on takes every block that starts before byte
`total`. -/
theorem eraseFrom_resting {total fuel : Nat} {addr : Word32} {r : Int × FlashDevice}
    (start : sectorOf addr.toNat = addr.toNat) (fits : total ≤ 2 * chipWords)
    (ran : (idealFlash timing select).eraseFrom fuel addr (total - 2 * addr.toNat)
      (s.withChip select (.resting mem locked errors started)) = some r) :
    ∃ mem' locked' errors' started',
      r = (0, s.withChip select (.resting mem' locked' errors' started')) ∧
      ∀ x, mem' x =
        if addr.toNat ≤ sectorOf x ∧ 2 * sectorOf x < total then 0xffff else mem x := by
  induction fuel generalizing addr mem locked errors started with
  | zero => cases ran
  | succ fuel ih =>
      rw [eraseFrom] at ran
      by_cases left : (0 : Int) < total - 2 * addr.toNat
      · rw [if_pos left] at ran
        have inChip : addr.toNat < chipWords := by omega
        obtain ⟨next, arch, block⟩ := blockStep start inChip
        obtain ⟨mode', started', ensured, others⟩ := ensureUnlocked_resting timing select s mem
          locked errors started (sector_add_two_lt start inChip) start
        have erased := eraseBlock_ready timing select s mem
          (Function.update locked addr.toNat false) mode' started' inChip start
          (Function.update_self ..) others
        -- one turn of the loop: unlock and erase, then on to the next block
        simp only [block.found, block.blkaddr, ensured, erased, Int.lt_irrefl, if_false,
          block.goesOn, block.left] at ran
        obtain ⟨mem', locked', errors', started'', ended, words⟩ := ih _ _ _ _ block.nextStart ran
        refine ⟨mem', locked', errors', started'', ended, ?_⟩
        intro x
        rw [words x, block.nextNat]
        -- a word of this block, of a later one, or of an earlier one
        by_cases here : sectorOf x = addr.toNat
        · rw [if_pos here, ite_self, if_pos (by omega)]
        · by_cases later : addr.toNat < sectorOf x
          · have gap := sectorWords_le start (sectorOf_idem x) later
            rw [if_neg here]
            congr 1
            exact propext (and_congr_left' (iff_of_true gap (Nat.le_of_lt later)))
          · have positive : addr.toNat ≤ addr.toNat + sectorWords addr.toNat :=
              Nat.le_add_right ..
            rw [if_neg here, if_neg (by omega), if_neg (by omega)]
      · rw [if_neg left] at ran
        obtain rfl := Option.some.inj ran
        refine ⟨mem, locked, errors, started, rfl, ?_⟩
        intro x
        rw [if_neg (by omega)]

theorem erase_resting {total : Nat} (fits : total ≤ 2 * chipWords) :
    ∃ mem' locked' errors' started',
      (idealFlash timing select).erase total
          (s.withChip select (.resting mem locked errors started)) =
        some (0, s.withChip select (.resting mem' locked' errors' started')) ∧
      ∀ x, mem' x = if 2 * sectorOf x < total then 0xffff else mem x := by
  obtain ⟨r, ran⟩ := Option.isSome_iff_exists.mp ((idealFlash timing select).erase_isSome total
    (s.withChip select (.resting mem locked errors started)))
  have first : (total : Int) = total - (2 : Int) * (0 : Word32).toNat := by
    rw [show (0 : Word32).toNat = 0 from rfl]
    omega
  have walk := ran
  rw [erase, first] at walk
  obtain ⟨mem', locked', errors', started', rfl, words⟩ :=
    eraseFrom_resting timing select s mem locked errors started rfl fits walk
  refine ⟨mem', locked', errors', started', ran, ?_⟩
  intro x
  rw [words x]
  congr 1
  exact propext (and_iff_right (Nat.zero_le _))

/-! ## Programming -/

/-- Reading back does not change the chip. -/
theorem verifyWords_resting (data : Nat → Word16) {addr : Word64} {left i : Nat}
    (inChip : addr.toNat + (i + left) ≤ chipWords) :
    ∃ readBack, (idealFlash timing select).verifyWords addr data left i
        (s.withChip select (.resting mem locked errors started)) =
      (readBack, s.withChip select (.resting mem locked errors started)) := by
  induction left generalizing i with
  | zero => exact ⟨[], rfl⟩
  | succ left ih =>
      have word : ((addr + BitVec.ofNat 64 i).setWidth 32).toNat < chipWords := by
        unfold chipWords at inChip ⊢
        rw [BitVec.toNat_setWidth, BitVec.toNat_add, BitVec.toNat_ofNat]
        omega
      rw [verifyWords]
      simp only [get_resting timing select s mem locked errors started word]
      have next : addr.toNat + (i + 1 + left) ≤ chipWords := by omega
      obtain ⟨later, verified⟩ := ih next
      split
      · exact ⟨_, rfl⟩
      · rw [verified]
        exact ⟨_, rfl⟩

/-- Word `x` of the file. -/
def fileWord (content : List Word8) (x : Nat) : Word16 :=
  bufferWord (fun i => content.getD i 0) x

/-- The words of a chunk are those of the file. -/
theorem bufferWord_fill {content : List Word8} {buffer : Nat → Word8} {pos count i : Nat}
    (even : pos % 2 = 0) (inside : 2 * i + 1 < count) :
    bufferWord ((ReadResult.bytes count).fill content pos buffer) i =
      fileWord content (pos / 2 + i) := by
  have low : 2 * (pos / 2 + i) = pos + 2 * i := by omega
  have first : 2 * i < count := by omega
  unfold bufferWord fileWord ReadResult.fill
  simp only [if_pos inside, if_pos first, bufferWord, low, ← Nat.add_assoc]

theorem count_half {count : Nat} (chunk : count ≤ writeBufferBytes) :
    ((ReadResult.bytes count).bytesRead / 2).toNat = count / 2 ∧
      (((ReadResult.bytes count).bytesRead / 2).setWidth 16).toNat = count / 2 := by
  unfold writeBufferBytes at chunk
  have words : ((ReadResult.bytes count).bytesRead / 2).toNat = count / 2 := by
    rw [ReadResult.bytesRead, BitVec.toNat_udiv, BitVec.toNat_ofNat]
    show count % 2 ^ 64 / 2 = count / 2
    omega
  refine ⟨words, ?_⟩
  rw [BitVec.toNat_setWidth, words]
  omega

/-- One chunk. -/
theorem writeTurn_resting (content : List Word8) (buffer : Nat → Word8) {addr : Word64}
    {pos count : Nat} (chunk : count ≤ writeBufferBytes) (nonempty : 0 < count)
    (even : count % 2 = 0) (aligned : pos % writeBufferBytes = 0) (place : addr.toNat = pos / 2)
    (inChip : pos + count ≤ 2 * chipWords) :
    ∃ readBack locked' started',
      (idealFlash timing select).writeTurn content (.bytes count) pos buffer addr
          (s.withChip select (.resting mem locked errors started)) =
        (⟨.bytes count, addr, (ReadResult.bytes count).fill content pos buffer,
            .programmed flashPecBusy, readBack⟩,
          s.withChip select (.resting
            (storeWords mem (pos / 2) (count / 2) fun i => fileWord content (pos / 2 + i))
            locked' 0 started')) := by
  obtain ⟨words, length⟩ := count_half chunk
  have whole : pos % 64 = 0 := aligned
  have small : count ≤ 64 := chunk
  have word : (addr.setWidth 32).toNat = pos / 2 := by
    unfold chipWords at inChip
    rw [BitVec.toNat_setWidth, place]
    omega
  have stored : storeWords mem (pos / 2) (count / 2)
      (bufferWord ((ReadResult.bytes count).fill content pos buffer)) =
      storeWords mem (pos / 2) (count / 2) fun i => fileWord content (pos / 2 + i) := by
    funext x
    unfold storeWords
    split
    · exact bufferWord_fill (by omega) (by omega)
    · rfl
  have inBlock : ∀ i < (((ReadResult.bytes count).bytesRead / 2).setWidth 16).toNat,
      sectorOf ((addr.setWidth 32).toNat + i) = sectorOf (addr.setWidth 32).toNat := by
    intro i inside
    rw [word]
    exact sectorOf_chunk (by omega) (by omega)
  obtain ⟨locked', started', programmed⟩ := programBuffer_resting timing select s mem locked
    errors started (by omega) (by omega) inBlock
  rw [word, length, stored] at programmed
  have inside : addr.toNat + (0 + ((ReadResult.bytes count).bytesRead / 2).toNat) ≤ chipWords := by
    omega
  obtain ⟨readBack, verified⟩ := verifyWords_resting timing select s
    (storeWords mem (pos / 2) (count / 2) fun i => fileWord content (pos / 2 + i)) locked' 0
    started' (bufferWord ((ReadResult.bytes count).fill content pos buffer)) inside
  refine ⟨readBack, locked', started', ?_⟩
  unfold writeTurn
  simp only [programmed]
  rw [if_neg (by decide), verified]

/-- The words of a chunk, and those behind it. -/
theorem storeWords_chunk {content : List Word8} {pos count : Nat} (whole : pos % 2 = 0)
    (evenCount : count % 2 = 0) (inFile : pos + count ≤ content.length) (mem : Nat → Word16)
    (x : Nat) :
    (if pos + count ≤ 2 * x ∧ 2 * x < content.length then fileWord content x
      else storeWords mem (pos / 2) (count / 2) (fun i => fileWord content (pos / 2 + i)) x) =
      if pos ≤ 2 * x ∧ 2 * x < content.length then fileWord content x else mem x := by
  rw [storeWords]
  -- a word behind this chunk, in it, or neither
  by_cases past : pos + count ≤ 2 * x ∧ 2 * x < content.length
  · rw [if_pos past, if_pos (by omega)]
  · by_cases here : pos / 2 ≤ x ∧ x < pos / 2 + count / 2
    · rw [if_neg past, if_pos here, if_pos (by omega), Nat.add_sub_cancel' here.1]
    · rw [if_neg past, if_neg here, if_neg (by omega)]

/-- The chunks from file position `pos` on. -/
theorem writeLoop_resting {content : List Word8} {reads : List ReadResult} {pos : Nat}
    (buffer : Nat → Word8) {addr : Word64} (full : FullChunks (content.length - pos) reads)
    (inFile : pos ≤ content.length) (even : content.length % 2 = 0)
    (aligned : pos % writeBufferBytes = 0 ∨ pos = content.length) (place : addr.toNat = pos / 2)
    (fits : content.length ≤ 2 * chipWords) :
    ∃ records mem' locked' errors' started',
      (idealFlash timing select).writeLoop content reads pos buffer addr
          (s.withChip select (.resting mem locked errors started)) =
        (records, s.withChip select (.resting mem' locked' errors' started')) ∧
      ∀ x, mem' x =
        if pos ≤ 2 * x ∧ 2 * x < content.length then fileWord content x else mem x := by
  induction reads generalizing pos buffer addr mem locked errors started with
  | nil =>
      have ended : content.length - pos = 0 := full
      refine ⟨[], mem, locked, errors, started, rfl, ?_⟩
      intro x
      rw [if_neg (by omega)]
  | cons result rest ih =>
      cases result with
      | failed => exact full.elim
      | bytes count =>
          obtain ⟨nonempty, chunk, later⟩ := full
          have size : writeBufferBytes = 64 := rfl
          have whole : pos % 64 = 0 := by
            rcases aligned with whole | ended
            · exact whole
            · omega
          have evenCount : count % 2 = 0 := by omega
          obtain ⟨readBack, locked', started', turn⟩ := writeTurn_resting timing select s mem
            locked errors started content buffer (by omega) nonempty evenCount whole place
              (by omega)
          have nextPlace : (addr + (ReadResult.bytes count).bytesRead / 2).toNat =
              (pos + count) / 2 := by
            unfold chipWords at fits
            rw [BitVec.toNat_add, (count_half (by omega)).1, place]
            omega
          have nextAligned : (pos + count) % writeBufferBytes = 0 ∨
              pos + count = content.length := by
            rw [size]
            omega
          have remaining : content.length - pos - count = content.length - (pos + count) := by omega
          rw [remaining] at later
          obtain ⟨records, mem', locked'', errors', started'', looped, words⟩ :=
            ih _ locked' 0 started' _ later (by omega) nextAligned nextPlace
          refine ⟨⟨.bytes count, addr, (ReadResult.bytes count).fill content pos buffer,
            .programmed flashPecBusy, readBack⟩ :: records, mem', locked'', errors', started'',
            ?_, ?_⟩
          · rw [writeLoop, turn]
            simp only
            rw [if_neg (by decide)]
            simp only [WriteRecord.words, ReadResult.count]
            rw [looped]
          · intro x
            rw [words x]
            exact storeWords_chunk (by omega) evenCount (by omega) mem x

/-! ## Reading back -/

theorem dumpWords_resting {left i : Nat} (inChip : i + left ≤ chipWords) :
    (idealFlash timing select).dumpWords left i
        (s.withChip select (.resting mem locked errors started)) =
      ((List.range' i left).map mem, s.withChip select (.resting mem locked errors started)) := by
  induction left generalizing i with
  | zero => rfl
  | succ left ih =>
      have word : (BitVec.ofNat 32 i).toNat = i := by
        unfold chipWords at inChip
        rw [BitVec.toNat_ofNat]
        omega
      have below : (BitVec.ofNat 32 i).toNat < chipWords := by omega
      have later : i + 1 + left ≤ chipWords := by omega
      rw [dumpWords, get_resting timing select s mem locked errors started below]
      simp only [ih later, word, List.range'_succ, List.map_cons]

end Flash

/-- Byte `k` of the dumped words. -/
theorem getElem?_wordBytes (words : List Word16) (k : Nat) :
    (words.flatMap wordBytes)[k]? = words[k / 2]?.map fun w => wordByte w (k % 2) := by
  induction words generalizing k with
  | nil => rfl
  | cons w rest ih =>
      rw [List.flatMap_cons]
      match k with
      | 0 => rfl
      | 1 => rfl
      | k + 2 =>
          have half : (k + 2) / 2 = k / 2 + 1 := by omega
          rw [half, Nat.add_mod_right, List.getElem?_cons_succ, ← ih]
          rfl

/-- The dump of a chip that holds the file from its first word on. -/
theorem take_dump {content : List Word8} {mem : Nat → Word16} (fits : content.length ≤ flashSize)
    (words : ∀ x, 2 * x < content.length → mem x = Flash.fileWord content x) :
    (((List.range' 0 (flashSize / 2)).map mem).flatMap wordBytes).take content.length =
      content := by
  unfold flashSize at fits ⊢
  apply List.ext_getElem?
  intro k
  rw [List.getElem?_take]
  by_cases inFile : k < content.length
  · have below : k / 2 < 16777216 / 2 := by omega
    have low : 2 * (k / 2) < content.length := by omega
    rw [if_pos inFile, getElem?_wordBytes, List.getElem?_map, List.getElem?_range' below,
      Option.map_some, Option.map_some, Nat.zero_add, Nat.one_mul, words _ low, Flash.fileWord,
      wordByte_bufferWord, List.getD_eq_getElem?_getD, List.getElem?_eq_getElem inFile]
    rfl
  · rw [if_neg inFile, List.getElem?_eq_none (Nat.not_lt.mp inFile)]

/-- A chip at rest, by its contents. -/
theorem FlashDevice.withChip_of_rests {s : FlashDevice} {select : Fin 2}
    (rests : (s select).Rests) :
    s.withChip select (.resting (s select).mem (s select).locked (s select).errors
      (s select).started) = s := by
  obtain ⟨array, command, idle⟩ := rests
  have chip : NorChip.resting (s select).mem (s select).locked (s select).errors
      (s select).started = s select := by
    cases h : s select with
    | mk mem locked mode phase errors busy started =>
        rw [h] at array command idle
        simp only at array command idle
        rw [array, command, idle]
  unfold FlashDevice.withChip
  rw [chip, Function.update_eq_self]

/-- The memory after the loop makes the round trip. -/
theorem roundTrip_of_words (timing : ChipTiming) {select : Fin 2} {content : List Word8}
    {s : FlashDevice} {mem : Nat → Word16} (locked : Nat → Bool) (errors : Word16) (started : Nat)
    (fits : content.length ≤ flashSize)
    (words : ∀ x, mem x =
      if 0 ≤ 2 * x ∧ 2 * x < content.length then Flash.fileWord content x
      else if 2 * sectorOf x < content.length then 0xffff else (s select).mem x) :
    RoundTrip timing select content s
      (s.withChip select (.resting mem locked errors started)) := by
  have after : (s.withChip select (.resting mem locked errors started)) select =
      .resting mem locked errors started := Function.update_self ..
  constructor
  · intro x inChip
    have word : (BitVec.ofNat 32 x).toNat = x := by
      unfold chipWords at inChip
      rw [BitVec.toNat_ofNat]
      omega
    rw [Flash.get_resting timing select s mem locked errors started (word.symm ▸ inChip), after,
      word]
  · have dumped := Flash.dumpWords_resting timing select s mem locked errors started
      (show 0 + flashSize / 2 ≤ chipWords by decide)
    unfold Flash.dump
    rw [if_neg (by decide), dumped]
    refine take_dump fits ?_
    intro x inFile
    rw [words x, if_pos ⟨Nat.zero_le _, inFile⟩]
  · intro x inChip past inBlock
    rw [after]
    show mem x = 0xffff
    rw [words x, if_neg (by omega), if_pos inBlock]
  · intro x inChip past
    have behind := sectorOf_le x
    rw [after]
    show mem x = (s select).mem x
    rw [words x, if_neg (by omega), if_neg (by omega)]
  · intro chip other
    exact Function.update_of_ne other ..

/-- **Flash round trip.** On an ideal chip at rest, with any content, locks and
timing, a file of even length that fits is written successfully, read back
exactly, and nothing but the blocks it starts in changes. -/
theorem flashWrite_roundtrip (timing : ChipTiming) (select : Fin 2) (file : InputFile)
    (heap : Nat → Word8) (s : FlashDevice) (rests : (s select).Rests)
    (even : file.content.length % 2 = 0) (fits : file.content.length ≤ flashFileSize)
    (full : FullChunks file.content.length file.reads) :
    ∃ result s', (idealFlash timing select).flashWrite (some file) heap s = some (result, s') ∧
      (file.accessible = true → file.opens = true → result.ret = 0) ∧
      (result.ret = 0 → RoundTrip timing select file.content s s') := by
  by_cases accessible : file.accessible = false
  · refine ⟨⟨-1, []⟩, s, if_pos accessible, ?_, ?_⟩
    · intro also
      rw [also] at accessible
      cases accessible
    · intro zero
      cases zero
  by_cases opens : file.opens = false
  · refine ⟨⟨-1, []⟩, s, ?_, ?_, ?_⟩
    · exact (if_neg accessible).trans ((if_neg (Nat.not_lt.mpr fits)).trans (if_pos opens))
    · intro _ also
      rw [also] at opens
      cases opens
    · intro zero
      cases zero
  have size : file.content.length ≤ 2 * chipWords := fits
  obtain ⟨erased, locked, errors, started, erase, blank⟩ := Flash.erase_resting timing select s
    (s select).mem (s select).locked (s select).errors (s select).started size
  rw [FlashDevice.withChip_of_rests rests] at erase
  obtain ⟨records, mem, locked', errors', started', loop, words⟩ :=
    Flash.writeLoop_resting timing select s erased locked errors started heap full
      (Nat.zero_le file.content.length) even (.inl rfl) (show (0 : Word64).toNat = 0 / 2 from rfl)
      size
  have written : (idealFlash timing select).flashWrite (some file) heap s =
      some (⟨0, records⟩, s.withChip select (.resting mem locked' errors' started')) := by
    unfold Flash.flashWrite
    simp only
    rw [if_neg accessible, if_neg (Nat.not_lt.mpr fits), if_neg opens, erase]
    simp only
    rw [if_neg (by omega), loop]
  refine ⟨_, _, written, fun _ _ => rfl, fun _ => ?_⟩
  refine roundTrip_of_words timing locked' errors' started' fits ?_
  intro x
  rw [words x, blank x]

/-- Every chip at rest, every word zero, every block locked. -/
def lockedDevice : FlashDevice := fun _ => .resting (fun _ => 0) (fun _ => true) 0 0

/-- Three polls for every operation. -/
def threePolls : ChipTiming := ⟨fun _ => 3, fun _ => by decide⟩

/-- 150 bytes: two full chunks and 22 bytes. -/
def threeChunks : InputFile where
  accessible := true
  opens := true
  content := (List.range 150).map (BitVec.ofNat 8)
  reads := [.bytes 64, .bytes 64, .bytes 22]
  possible := by
    rw [List.length_map, List.length_range]
    exact ⟨by decide, by decide, by decide, by decide, by decide, by decide, by decide, by decide,
      by decide, trivial⟩

theorem flashWrite_roundtrip_threeChunks :
    ∃ result s', (idealFlash threePolls 1).flashWrite (some threeChunks) (fun _ => 0) lockedDevice =
        some (result, s') ∧ result.ret = 0 ∧
      RoundTrip threePolls 1 threeChunks.content lockedDevice s' := by
  have length : threeChunks.content.length = 150 := by
    rw [threeChunks, List.length_map, List.length_range]
  have full : FullChunks threeChunks.content.length threeChunks.reads := by
    rw [length]
    exact ⟨by decide, by decide, by decide, by decide, by decide, by decide, rfl⟩
  obtain ⟨result, s', written, succeeds, roundTrip⟩ :=
    flashWrite_roundtrip threePolls 1 threeChunks (fun _ => 0) lockedDevice ⟨rfl, rfl, rfl⟩
      (by rw [length]) (by rw [length]; decide) full
  exact ⟨result, s', written, succeeds rfl rfl, roundTrip (succeeds rfl rfl)⟩

end Librorc
