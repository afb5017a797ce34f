import Librorc.Flash.Chip
import Mathlib.Data.List.Basic
import Mathlib.Tactic.Linarith

/-!
# `flash::flashWrite`

The write reads the file in chunks of at most 64 bytes, programs each chunk
and reads it back. A failed `programBuffer` leaves the loop, a mismatch only
leaves the comparison, and the function returns 0 either way. An odd number of
bytes is halved and rounded down. The records of the turns tell what has
really been written.
-/

namespace Librorc

/-- `32 * sizeof(uint16_t)`. -/
def writeBufferBytes : Nat := 64

/-- A result of `read()`. The zero of the end of the file ends the sequence. -/
inductive ReadResult
  | failed
  | bytes (count : Nat)
deriving DecidableEq

/-- What `read()` may return with `left` bytes of the file to go. -/
def ReadsPossible : Nat → List ReadResult → Prop
  | _, [] => True
  | left, .failed :: rest => ReadsPossible left rest
  | left, .bytes count :: rest =>
      0 < count ∧ count ≤ writeBufferBytes ∧ count ≤ left ∧ ReadsPossible (left - count) rest

/-- The input file, as `stat`, `open` and `read` show it. -/
structure InputFile where
  accessible : Bool
  opens : Bool
  content : List Word8
  reads : List ReadResult
  possible : ReadsPossible content.length reads

namespace ReadResult

/-- The result in a `size_t`: the -1 of a failure turns into the largest
value. -/
def bytesRead : ReadResult → Word64
  | .failed => -1
  | .bytes count => BitVec.ofNat 64 count

/-- How far the file position moves. -/
def count : ReadResult → Nat
  | .failed => 0
  | .bytes count => count

/-- The buffer after the read; what was there before stays behind the new
bytes. -/
def fill (content : List Word8) (pos : Nat) (buffer : Nat → Word8) : ReadResult → Nat → Word8
  | .failed => buffer
  | .bytes count => fun i => if i < count then content.getD (pos + i) 0 else buffer i

end ReadResult

/-- `buffer[i]` of the `uint16_t` view, on a little endian host. -/
def bufferWord (buffer : Nat → Word8) (i : Nat) : Word16 := buffer (2 * i + 1) ++ buffer (2 * i)

/-- Byte `j` of a word. -/
def wordByte (w : Word16) (j : Nat) : Word8 := w.extractLsb' (8 * j) 8

theorem wordByte_bufferWord (buffer : Nat → Word8) (k : Nat) :
    wordByte (bufferWord buffer (k / 2)) (k % 2) = buffer k := by
  unfold wordByte bufferWord
  apply BitVec.eq_of_getLsbD_eq
  intro i inRange
  rw [BitVec.getLsbD_extractLsb', decide_eq_true inRange, Bool.true_and]
  refine (BitVec.getLsbD_append (y := buffer (2 * (k / 2)))).trans ?_
  rcases Nat.mod_two_eq_zero_or_one k with even | odd
  · rw [even, show 2 * (k / 2) = k by omega, if_pos (by omega)]
    simp
  · rw [odd, show 2 * (k / 2) + 1 = k by omega, if_neg (by omega)]
    congr 1
    omega

/-- One turn of the programming loop. `buffer` is the memory behind the
pointer given to `programBuffer`. -/
structure WriteRecord where
  result : ReadResult
  addr : Word64
  buffer : Nat → Word8
  outcome : ProgramOutcome
  readBack : List Word16

namespace WriteRecord

/-- `bytes_read/2`. -/
def words (record : WriteRecord) : Word64 := record.result.bytesRead / 2

/-- The `length` argument of `programBuffer`. -/
def length (record : WriteRecord) : Word16 := record.words.setWidth 16

def data (record : WriteRecord) (i : Nat) : Word16 := bufferWord record.buffer i

/-- The chunk has been programmed, and every word read back as written. -/
def Accepted (record : WriteRecord) : Prop :=
  record.outcome.completed = true ∧
    ∀ i < record.words.toNat, record.readBack[i]? = some (record.data i)

/-- A failed read, a failed `programBuffer`, or a mismatch. -/
def Failed (record : WriteRecord) : Prop := record.result = .failed ∨ ¬record.Accepted

/-- Byte `k` of the file has been programmed at its address and read back. -/
def KeepsByte (record : WriteRecord) (k : Nat) (byte : Word8) : Prop :=
  record.Accepted ∧ ∃ i < record.length.toNat,
    (record.addr + BitVec.ofNat 64 i).setWidth 32 = BitVec.ofNat 32 (k / 2) ∧
      wordByte (record.data i) (k % 2) = byte

end WriteRecord

/-- What `flashWrite` returns, and the turns of its loop. -/
structure WriteResult where
  ret : Int
  records : List WriteRecord

/-- A zero return promises that nothing failed and that every byte of the file
is in the flash. -/
def WriteResult.Sound (content : List Word8) (result : WriteResult) : Prop :=
  result.ret = 0 →
    (∀ record ∈ result.records, ¬record.Failed) ∧
      ∀ k (inFile : k < content.length), ∃ record ∈ result.records, record.KeepsByte k content[k]

namespace Flash

variable {σ : Type*} (f : Flash σ)

/-- The words read back from `i` on, up to the first that is not the one
written. -/
def verifyWords (addr : Word64) (data : Nat → Word16) : Nat → Nat → σ → List Word16 × σ
  | 0, _, s => ([], s)
  | left + 1, i, s =>
      let (status, s) := f.get ((addr + BitVec.ofNat 64 i).setWidth 32) s
      if data i ≠ status then ([status], s)
      else
        let (later, s) := verifyWords addr data left (i + 1) s
        (status :: later, s)

/-- The body of the loop. -/
def writeTurn (content : List Word8) (result : ReadResult) (pos : Nat) (buffer : Nat → Word8)
    (addr : Word64) (s : σ) : WriteRecord × σ :=
  let buffer := result.fill content pos buffer
  let words := result.bytesRead / 2
  let (outcome, s) :=
    f.programBuffer (addr.setWidth 32) (words.setWidth 16) (bufferWord buffer) s
  let (readBack, s) :=
    if outcome.ret < 0 then ([], s)
    else f.verifyWords addr (bufferWord buffer) words.toNat 0 s
  (⟨result, addr, buffer, outcome, readBack⟩, s)

/-- The loop, from file position `pos` on. -/
def writeLoop (content : List Word8) : List ReadResult → Nat → (Nat → Word8) → Word64 → σ →
    List WriteRecord × σ
  | [], _, _, _, s => ([], s)
  | result :: rest, pos, buffer, addr, s =>
      let (record, s) := f.writeTurn content result pos buffer addr s
      -- the only way out of the loop before the end of the file
      if record.outcome.ret < 0 then ([record], s)
      else
        let (records, s) :=
          writeLoop content rest (pos + result.count) record.buffer (addr + record.words) s
        (record :: records, s)

/-- `flashWrite`; `none` for a null file name, and `heap` is what `malloc`
returned. -/
def flashWrite (filename : Option InputFile) (heap : Nat → Word8) (s : σ) :
    Option (WriteResult × σ) :=
  match filename with
  | none => some (⟨-1, []⟩, s)
  | some file =>
      if file.accessible = false then some (⟨-1, []⟩, s)
      else if flashFileSize < file.content.length then some (⟨-1, []⟩, s)
      else if file.opens = false then some (⟨-1, []⟩, s)
      else
        match f.erase file.content.length s with
        | none => none
        | some (status, s) =>
            if status ≠ 0 then some (⟨-1, []⟩, s)
            else
              let (records, s) := f.writeLoop file.content file.reads 0 heap 0 s
              some (⟨0, records⟩, s)

end Flash
end Librorc
