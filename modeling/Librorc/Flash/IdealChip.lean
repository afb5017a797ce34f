import Librorc.Flash.Chip
import Mathlib.Data.Fin.Basic

/-!
# An ideal NOR flash

The two chips behind the flash window, selected by address bit 23. An operation
is busy for a number of status reads below the timeout, and then it has
succeeded. The read mode is kept for each bank, and a locked block is not
touched.
-/

namespace Librorc

open Librorc.Lib

/-- What a read returns. -/
inductive ReadMode
  | array
  | status
  | identifier
deriving DecidableEq

/-- What the chip takes the next write for. -/
inductive ChipPhase
  | command
  | eraseSetup
  | lockSetup
  | wordCount
  /-- `left` words to come, and the words loaded so far by address. -/
  | loading (left : Nat) (pending : Nat → Option Word16)

/-- One chip, by word addresses below 2^23. -/
structure NorChip where
  mem : Nat → Word16
  /-- By the first word of the block. -/
  locked : Nat → Bool
  /-- By bank. -/
  mode : Nat → ReadMode
  phase : ChipPhase
  errors : Word16
  /-- The number of status reads until the operation is done. -/
  busy : Nat
  /-- The number of operations started. -/
  started : Nat

/-- How many status reads each operation takes. -/
structure ChipTiming where
  polls : Nat → Nat
  bounded : ∀ n, polls n < cfgFlashTimeout

/-- 2^23 words. -/
def chipWords : Nat := 8388608

/-- The first word of a block: 127 blocks of 2^16 words and four of 2^14. -/
def sectorOf (a : Nat) : Nat :=
  if a < 0x7f0000 then a / 0x10000 * 0x10000 else 0x7f0000 + (a - 0x7f0000) / 0x4000 * 0x4000

/-- 16 banks of 2^19 words. -/
def bankOf (a : Nat) : Nat := a / 0x80000

namespace NorChip

variable (timing : ChipTiming) (c : NorChip)

def setMode (a : Nat) (mode : ReadMode) : NorChip :=
  { c with mode := Function.update c.mode (bankOf a) mode }

def start : NorChip := { c with busy := timing.polls c.started, started := c.started + 1 }

/-- SR.5 and SR.1. -/
def protectError : Word16 := 0x0022

/-- SR.5 and SR.4. -/
def sequenceError : Word16 := 0x0030

def eraseSector (a : Nat) : NorChip :=
  if c.locked (sectorOf a) then { c with errors := c.errors ||| protectError }
  else { c with mem := fun x => if sectorOf x = sectorOf a then 0xffff else c.mem x }

/-- Words loaded for another block than the one that is confirmed are lost. -/
def program (a : Nat) (pending : Nat → Option Word16) : NorChip :=
  if c.locked (sectorOf a) then { c with errors := c.errors ||| protectError }
  else
    { c with
      mem := fun x => if sectorOf x = sectorOf a then (pending x).getD (c.mem x) else c.mem x }

/-- A write when the chip waits for a command. -/
def command (a : Nat) (w : Word16) : NorChip :=
  if w = flashCmdReadArray ∨ w = flashCmdReset then c.setMode a .array
  else if w = flashCmdReadIdentifier then c.setMode a .identifier
  else if w = flashCmdReadStatus then c.setMode a .status
  else if w = flashCmdClrSts then { c with errors := 0 }
  else if w = flashCmdBlockEraseSetup then { c.setMode a .status with phase := .eraseSetup }
  else if w = flashCmdBlockLockSetup then { c.setMode a .status with phase := .lockSetup }
  else if w = flashCmdBufferProg then ({ c.setMode a .status with phase := .wordCount }).start timing
  else c

/-- A write. While the chip is busy it only takes `FLASH_CMD_READ_STATUS`. -/
def write (a : Nat) (w : Word16) : NorChip :=
  if c.busy ≠ 0 then
    if w = flashCmdReadStatus then c.setMode a .status else c
  else
    match c.phase with
    | .command => c.command timing a w
    | .eraseSetup =>
        if w = flashCmdConfirm then (({ c with phase := .command }).eraseSector a).start timing
        else { c with phase := .command, errors := c.errors ||| sequenceError }
    | .lockSetup =>
        if w = flashCmdConfirm then
          ({ c with
            phase := .command
            locked := Function.update c.locked (sectorOf a) false }).start timing
        else if w = flashCmdBlockLockConfirm then
          ({ c with
            phase := .command
            locked := Function.update c.locked (sectorOf a) true }).start timing
        else { c with phase := .command, errors := c.errors ||| sequenceError }
    -- the driver writes the count less one
    | .wordCount => { c with phase := .loading (w.toNat + 1) (fun _ => none) }
    | .loading (left + 1) pending =>
        { c with phase := .loading left (Function.update pending a (some w)) }
    -- all words are loaded
    | .loading 0 pending =>
        if w = flashCmdConfirm then (({ c with phase := .command }).program a pending).start timing
        else { c with phase := .command, errors := c.errors ||| sequenceError }

/-- A read. Status reads are what makes time pass. -/
def read (a : Nat) : Word16 × NorChip :=
  match c.mode (bankOf a) with
  | .array => (c.mem a, c)
  | .status =>
      if c.busy = 0 then (flashPecBusy ||| c.errors, c) else (0, { c with busy := c.busy - 1 })
  | .identifier => (if a = sectorOf a + 2 ∧ c.locked (sectorOf a) then 1 else 0, c)

/-- In read array mode and ready for a command. -/
def Rests : Prop := c.mode = (fun _ => .array) ∧ c.phase = .command ∧ c.busy = 0

end NorChip

/-- The chips, by chip select. -/
abbrev FlashDevice := Nat → NorChip

/-- The flash window. -/
def norBus (timing : ChipTiming) : FlashBus FlashDevice where
  set16 s addr w :=
    let select := addr.toNat / chipWords
    Function.update s select ((s select).write timing (addr.toNat % chipWords) w)
  get16 s addr :=
    let select := addr.toNat / chipWords
    let (w, c) := (s select).read (addr.toNat % chipWords)
    (w, Function.update s select c)

/-- The constructor throws for a chip select above 1. -/
def idealFlash (timing : ChipTiming) (chipSelect : Fin 2) : Flash FlashDevice :=
  ⟨norBus timing, BitVec.ofNat 32 chipSelect⟩

/-! ## Addresses -/

theorem sectorOf_le (a : Nat) : sectorOf a ≤ a := by
  unfold sectorOf
  split
  · omega
  · omega

theorem sectorOf_of_lt {a : Nat} (main : a < 0x7f0000) : sectorOf a = a / 0x10000 * 0x10000 :=
  if_pos main

theorem sectorOf_of_le {a : Nat} (top : 0x7f0000 ≤ a) :
    sectorOf a = 0x7f0000 + (a - 0x7f0000) / 0x4000 * 0x4000 :=
  if_neg (Nat.not_lt.mpr top)

theorem sectorOf_idem (a : Nat) : sectorOf (sectorOf a) = sectorOf a := by
  rcases Nat.lt_or_ge a 0x7f0000 with main | top
  · rw [sectorOf_of_lt main, sectorOf_of_lt (by omega), Nat.mul_div_cancel _ (by omega)]
  · rw [sectorOf_of_le top, sectorOf_of_le (Nat.le_add_right ..), Nat.add_sub_cancel_left,
      Nat.mul_div_cancel _ (by omega)]

/-- A block lies in one bank. -/
theorem bankOf_sectorOf (a : Nat) : bankOf (sectorOf a) = bankOf a := by
  unfold sectorOf bankOf
  split
  · omega
  · omega

theorem sector_aligned {a : Nat} (start : sectorOf a = a) :
    (a < 0x7f0000 ∧ 0x10000 ∣ a) ∨ (0x7f0000 ≤ a ∧ 0x4000 ∣ a - 0x7f0000) := by
  rcases Nat.lt_or_ge a 0x7f0000 with main | top
  · rw [sectorOf_of_lt main] at start
    exact .inl ⟨main, Dvd.intro_left _ start⟩
  · rw [sectorOf_of_le top] at start
    exact .inr ⟨top, Dvd.intro_left _ (Nat.eq_sub_of_add_eq' start)⟩

theorem sectorOf_add_two {a : Nat} (start : sectorOf a = a) :
    sectorOf (a + 2) = a ∧ bankOf (a + 2) = bankOf a := by
  have sector : sectorOf (a + 2) = a := by
    rcases sector_aligned start with ⟨main, aligned⟩ | ⟨top, aligned⟩
    · clear start
      have next : a + 2 < 0x7f0000 := by omega
      rw [sectorOf_of_lt next]
      omega
    · clear start
      rw [sectorOf_of_le (Nat.le_add_right_of_le top)]
      omega
  refine ⟨sector, ?_⟩
  rw [← bankOf_sectorOf (a + 2), sector]

theorem sector_add_two_lt {a : Nat} (start : sectorOf a = a) (inChip : a < chipWords) :
    a + 2 < chipWords := by
  unfold chipWords at *
  rcases sector_aligned start with ⟨main, aligned⟩ | ⟨top, aligned⟩
  · omega
  · clear start
    omega

/-- The number of words of a block. -/
def sectorWords (a : Nat) : Nat := if a < 0x7f0000 then 0x10000 else 0x4000

theorem and_highBits_toNat (addr : Word32) (k : Nat) :
    (addr &&& (BitVec.allOnes 32 <<< k)).toNat = addr.toNat / 2 ^ k * 2 ^ k := by
  have shifts : addr &&& (BitVec.allOnes 32 <<< k) = (addr >>> k) <<< k := by
    apply BitVec.eq_of_getLsbD_eq
    intro i inRange
    simp only [BitVec.getLsbD_and, BitVec.getLsbD_shiftLeft, BitVec.getLsbD_allOnes,
      BitVec.getLsbD_ushiftRight]
    by_cases low : i < k
    · simp [low]
    · have cell : k + (i - k) = i := by omega
      simp [low, inRange, cell, Nat.lt_of_le_of_lt (Nat.sub_le i k) inRange]
  rw [shifts, BitVec.toNat_shiftLeft, BitVec.toNat_ushiftRight, Nat.shiftRight_eq_div_pow,
    Nat.shiftLeft_eq]
  exact Nat.mod_eq_of_lt (Nat.lt_of_le_of_lt (Nat.div_mul_le_self _ _) addr.isLt)

/-- `getFlashArchitecture` knows the blocks of the chip. -/
theorem getFlashArchitecture_sector {addr : Word32} (inChip : addr.toNat < chipWords) :
    ∃ arch, getFlashArchitecture addr = some arch ∧ arch.blkaddr.toNat = sectorOf addr.toNat ∧
      arch.blksize.toNat = 2 * sectorWords addr.toNat := by
  unfold chipWords at inChip
  rcases Nat.lt_or_ge addr.toNat 0x7f0000 with main | top
  · have low : addr ≤ 0x7effff#32 := by
      rw [BitVec.le_def]
      show addr.toNat ≤ 0x7effff
      omega
    refine ⟨_, if_pos low, ?_, ?_⟩
    · rw [sectorOf_of_lt main]
      exact and_highBits_toNat addr 16
    · rw [sectorWords, if_pos main]
      rfl
  · have high : ¬addr ≤ 0x7effff#32 := by
      rw [BitVec.le_def]
      show ¬addr.toNat ≤ 0x7effff
      omega
    have valid : addr ≤ 0x7fffff#32 := by
      rw [BitVec.le_def]
      show addr.toNat ≤ 0x7fffff
      omega
    refine ⟨_, (if_neg high).trans (if_pos valid), ?_, ?_⟩
    · rw [sectorOf_of_le top]
      refine (and_highBits_toNat addr 14).trans ?_
      omega
    · rw [sectorWords, if_neg (Nat.not_lt.mpr top)]
      rfl

/-- The block behind a block. -/
theorem sectorOf_next {a : Nat} (start : sectorOf a = a) :
    sectorOf (a + sectorWords a) = a + sectorWords a := by
  rcases sector_aligned start with ⟨main, aligned⟩ | ⟨top, aligned⟩
  · rw [sectorWords, if_pos main]
    clear start
    rcases Nat.lt_or_ge (a + 0x10000) 0x7f0000 with next | last
    · rw [sectorOf_of_lt next]
      exact Nat.div_mul_cancel (Nat.dvd_add aligned (Nat.dvd_refl _))
    · have edge : a + 0x10000 = 0x7f0000 := by omega
      rw [edge]
      rfl
  · rw [sectorWords, if_neg (Nat.not_lt.mpr top), sectorOf_of_le (Nat.le_add_right_of_le top),
      Nat.sub_add_comm top, Nat.div_mul_cancel (Nat.dvd_add aligned (Nat.dvd_refl _)),
      ← Nat.add_assoc, Nat.add_sub_cancel' top]

/-- No block starts inside another. -/
theorem sectorWords_le {a b : Nat} (startA : sectorOf a = a) (startB : sectorOf b = b)
    (later : a < b) : a + sectorWords a ≤ b := by
  rcases sector_aligned startA with ⟨mainA, alignedA⟩ | ⟨topA, alignedA⟩
  · rw [sectorWords, if_pos mainA]
    rcases sector_aligned startB with ⟨-, alignedB⟩ | ⟨topB, -⟩
    · clear startA startB
      omega
    · clear startA startB
      omega
  · rw [sectorWords, if_neg (Nat.not_lt.mpr topA)]
    rcases sector_aligned startB with ⟨mainB, -⟩ | ⟨-, alignedB⟩
    · omega
    · clear startA startB
      omega

/-- `current_addr += (arch.blksize >> 1)` goes to the block behind. -/
theorem next_block_toNat {addr : Word32} {arch : FlashArchitecture}
    (inChip : addr.toNat < chipWords) (size : arch.blksize.toNat = 2 * sectorWords addr.toNat) :
    (addr + (arch.blksize >>> 1)).toNat = addr.toNat + sectorWords addr.toNat := by
  have half : (arch.blksize >>> 1).toNat = sectorWords addr.toNat := by
    rw [BitVec.toNat_ushiftRight, size]
    exact Nat.mul_div_cancel_left _ (by omega)
  rw [BitVec.toNat_add, half]
  unfold sectorWords
  unfold chipWords at inChip
  split
  · omega
  · omega

/-- What a loop over the blocks finds at the start of one, and where it goes
on. -/
structure BlockStep (addr next : Word32) (arch : FlashArchitecture) : Prop where
  found : getFlashArchitecture addr = some arch
  blkaddr : arch.blkaddr = addr
  goesOn : addr + (arch.blksize >>> 1) = next
  nextNat : next.toNat = addr.toNat + sectorWords addr.toNat
  nextStart : sectorOf next.toNat = next.toNat
  nextLe : next.toNat ≤ chipWords
  /-- The bytes left of `total`. -/
  left : ∀ total : Int, total - 2 * addr.toNat - arch.blksize.toNat = total - 2 * next.toNat

theorem blockStep {addr : Word32} (start : sectorOf addr.toNat = addr.toNat)
    (inChip : addr.toNat < chipWords) : ∃ next arch, BlockStep addr next arch := by
  obtain ⟨arch, found, block, size⟩ := getFlashArchitecture_sector inChip
  have next := next_block_toNat inChip size
  refine ⟨addr + (arch.blksize >>> 1), arch, found, BitVec.eq_of_toNat_eq (block.trans start), rfl,
    next, ?_, ?_, fun total => ?_⟩
  · rw [next]
    exact sectorOf_next start
  · rw [next]
    exact sectorWords_le start (b := chipWords) (by decide) inChip
  · rw [next, size]
    omega

/-! ## The selected chip -/

namespace NorChip

variable (timing : ChipTiming) (mem : Nat → Word16) (locked : Nat → Bool) (mode : Nat → ReadMode)
  (phase : ChipPhase) (errors : Word16) (busy started : Nat) (a : Nat)

/-- A chip that works off its last operation. -/
abbrev working : NorChip := ⟨mem, locked, mode, .command, errors, busy, started⟩

/-- A chip that waits for a command. -/
abbrev ready : NorChip := working mem locked mode errors 0 started

/-- A ready chip in read array mode. -/
abbrev resting : NorChip := ready mem locked (fun _ => .array) errors started

@[simp] theorem ready_readArray :
    (ready mem locked mode errors started).write timing a flashCmdReadArray =
      ready mem locked (Function.update mode (bankOf a) .array) errors started := rfl

@[simp] theorem ready_reset :
    (ready mem locked mode errors started).write timing a flashCmdReset =
      ready mem locked (Function.update mode (bankOf a) .array) errors started := rfl

@[simp] theorem ready_readIdentifier :
    (ready mem locked mode errors started).write timing a flashCmdReadIdentifier =
      ready mem locked (Function.update mode (bankOf a) .identifier) errors started := rfl

@[simp] theorem ready_clrSts :
    (ready mem locked mode errors started).write timing a flashCmdClrSts =
      ready mem locked mode 0 started := rfl

@[simp] theorem ready_blockEraseSetup :
    (ready mem locked mode errors started).write timing a flashCmdBlockEraseSetup =
      ⟨mem, locked, Function.update mode (bankOf a) .status, .eraseSetup, errors, 0, started⟩ := rfl

@[simp] theorem ready_blockLockSetup :
    (ready mem locked mode errors started).write timing a flashCmdBlockLockSetup =
      ⟨mem, locked, Function.update mode (bankOf a) .status, .lockSetup, errors, 0, started⟩ := rfl

@[simp] theorem ready_bufferProg :
    (ready mem locked mode errors started).write timing a flashCmdBufferProg =
      ⟨mem, locked, Function.update mode (bankOf a) .status, .wordCount, errors,
        timing.polls started, started + 1⟩ := rfl

/-- Also while it works. -/
@[simp] theorem working_readStatus :
    (working mem locked mode errors busy started).write timing a flashCmdReadStatus =
      working mem locked (Function.update mode (bankOf a) .status) errors busy started := by
  cases busy with
  | zero => rfl
  | succ busy => rfl

@[simp] theorem lockSetup_confirm :
    (⟨mem, locked, mode, .lockSetup, errors, 0, started⟩ : NorChip).write timing a flashCmdConfirm =
      working mem (Function.update locked (sectorOf a) false) mode errors (timing.polls started)
        (started + 1) := rfl

variable {mem locked mode phase errors busy started a}

theorem eraseSetup_confirm (unlocked : locked (sectorOf a) = false) :
    (⟨mem, locked, mode, .eraseSetup, errors, 0, started⟩ : NorChip).write timing a
        flashCmdConfirm =
      working (fun x => if sectorOf x = sectorOf a then 0xffff else mem x) locked mode errors
        (timing.polls started) (started + 1) := by
  simp [write, eraseSector, unlocked, start]

theorem loading_confirm (pending : Nat → Option Word16) (unlocked : locked (sectorOf a) = false) :
    (⟨mem, locked, mode, .loading 0 pending, errors, 0, started⟩ : NorChip).write timing a
        flashCmdConfirm =
      working (fun x => if sectorOf x = sectorOf a then (pending x).getD (mem x) else mem x) locked
        mode errors (timing.polls started) (started + 1) := by
  simp [write, program, unlocked, start]

theorem read_ready_status (status : mode (bankOf a) = .status) :
    (⟨mem, locked, mode, phase, errors, 0, started⟩ : NorChip).read a =
      (flashPecBusy ||| errors, ⟨mem, locked, mode, phase, errors, 0, started⟩) := by
  simp [read, status]

theorem read_busy_status (status : mode (bankOf a) = .status) :
    (⟨mem, locked, mode, phase, errors, busy + 1, started⟩ : NorChip).read a =
      (0, ⟨mem, locked, mode, phase, errors, busy, started⟩) := by
  simp [read, status]

end NorChip

/-- The device with the selected chip replaced. -/
def FlashDevice.withChip (s : FlashDevice) (select : Fin 2) (c : NorChip) : FlashDevice :=
  Function.update s select c

namespace Flash

variable (timing : ChipTiming) (select : Fin 2) (s : FlashDevice) (c : NorChip) {addr : Word32}

theorem baseAddr_toNat : (idealFlash timing select).baseAddr.toNat = select * chipWords := by
  have small : select.val < 2 := select.isLt
  unfold baseAddr idealFlash flashChipSelectBit chipWords
  rw [BitVec.toNat_shiftLeft, BitVec.toNat_ofNat, Nat.shiftLeft_eq]
  omega

theorem window_addr (inChip : addr.toNat < chipWords) :
    ((idealFlash timing select).baseAddr + addr).toNat / chipWords = select ∧
      ((idealFlash timing select).baseAddr + addr).toNat % chipWords = addr.toNat := by
  have base := baseAddr_toNat timing select
  have small : select.val < 2 := select.isLt
  unfold chipWords at *
  rw [BitVec.toNat_add, base]
  omega

theorem sendCommand_withChip (inChip : addr.toNat < chipWords) (cmd : Word16) :
    (idealFlash timing select).sendCommand (s.withChip select c) addr cmd =
      s.withChip select (c.write timing addr.toNat cmd) := by
  obtain ⟨chip, word⟩ := window_addr timing select inChip
  unfold sendCommand
  show (norBus timing).set16 _ _ _ = _
  simp only [norBus, chip, word, FlashDevice.withChip, Function.update_self, Function.update_idem]

theorem get_withChip (inChip : addr.toNat < chipWords) :
    (idealFlash timing select).get addr (s.withChip select c) =
      ((c.read addr.toNat).1, s.withChip select (c.read addr.toNat).2) := by
  obtain ⟨chip, word⟩ := window_addr timing select inChip
  unfold get
  show (norBus timing).get16 _ _ = _
  simp only [norBus, chip, word, FlashDevice.withChip, Function.update_self, Function.update_idem]

/-! ## Operations -/

section Operations

variable {mem : Nat → Word16} {locked : Nat → Bool} {mode : Nat → ReadMode} {phase : ChipPhase}
  {errors : Word16} {started : Nat}

/-- The status of a chip without errors. -/
theorem statusBusy_flashPecBusy : statusBusy (flashPecBusy ||| 0) = false := by decide

theorem statusBusy_zero : statusBusy 0 = true := by decide

theorem get_busy (inChip : addr.toNat < chipWords) (status : mode (bankOf addr.toNat) = .status)
    (k : Nat) :
    (idealFlash timing select).get addr
        (s.withChip select ⟨mem, locked, mode, phase, errors, k + 1, started⟩) =
      (0, s.withChip select ⟨mem, locked, mode, phase, errors, k, started⟩) := by
  rw [get_withChip _ _ _ _ inChip, NorChip.read_busy_status status]

theorem get_ready (inChip : addr.toNat < chipWords)
    (status : mode (bankOf addr.toNat) = .status) :
    (idealFlash timing select).get addr
        (s.withChip select ⟨mem, locked, mode, phase, errors, 0, started⟩) =
      (flashPecBusy ||| errors,
        s.withChip select ⟨mem, locked, mode, phase, errors, 0, started⟩) := by
  rw [get_withChip _ _ _ _ inChip, NorChip.read_ready_status status]

/-- Polling the status of a chip without errors ends ready. -/
theorem poll_status {budget k : Nat} {busy : Word16 → Bool} (inChip : addr.toNat < chipWords)
    (status : mode (bankOf addr.toNat) = .status) (isBusy : busy 0 = true)
    (isReady : busy (flashPecBusy ||| 0) = false) (below : k < budget) :
    poll ((idealFlash timing select).get addr) busy budget
        (s.withChip select ⟨mem, locked, mode, phase, 0, k, started⟩) =
      .ready (flashPecBusy ||| 0)
        (s.withChip select ⟨mem, locked, mode, phase, 0, 0, started⟩) :=
  poll_countdown (fun k => s.withChip select ⟨mem, locked, mode, phase, 0, k, started⟩)
    (get_busy timing select s inChip status) isBusy (get_ready timing select s inChip status)
    isReady below

variable (mem locked mode errors started)

theorem resetBlock_ready (inChip : addr.toNat < chipWords) :
    (idealFlash timing select).resetBlock addr
        (s.withChip select (.ready mem locked mode errors started)) =
      (flashPecBusy ||| 0, s.withChip select (.ready mem locked
        (Function.update mode (bankOf addr.toNat) .array) 0 started)) := by
  unfold resetBlock clearStatusRegister getStatusRegister
  simp only [sendCommand_withChip _ _ _ _ inChip, NorChip.ready_clrSts, NorChip.working_readStatus,
    get_ready _ _ _ inChip (Function.update_self ..), NorChip.ready_reset, NorChip.ready_readArray,
    Function.update_idem]

/-- The read modes after an operation on one bank. -/
theorem update_array {b : Nat} (others : ∀ x, x ≠ b → mode x = .array) :
    Function.update mode b .array = fun _ => .array := by
  funext x
  by_cases same : x = b
  · rw [same, Function.update_self]
  · rw [Function.update_of_ne same, others x same]

/-- Reading the lock bit leaves at most the bank of the block in another
mode. -/
theorem getBlockLockConfiguration_resting (inChip : addr.toNat + 2 < chipWords)
    (start : sectorOf addr.toNat = addr.toNat) :
    ∃ mode', (idealFlash timing select).getBlockLockConfiguration addr
        (s.withChip select (.resting mem locked errors started)) =
      (if locked addr.toNat then 1 else 0, s.withChip select (.ready mem locked mode' 0 started)) ∧
      ∀ x, x ≠ bankOf addr.toNat → mode' x = .array := by
  have second : (addr + 0x02).toNat = addr.toNat + 2 := by
    unfold chipWords at inChip
    rw [BitVec.toNat_add]
    show (addr.toNat + 2) % _ = _
    omega
  obtain ⟨sector, bank⟩ := sectorOf_add_two start
  have zero : (0 : Word32).toNat < chipWords := by decide
  unfold getBlockLockConfiguration
  simp only [sendCommand_withChip _ _ _ _ (Nat.lt_of_le_of_lt (Nat.le_add_right _ 2) inChip),
    NorChip.ready_readIdentifier, get_withChip _ _ _ _ (second ▸ inChip), second]
  rw [NorChip.read]
  simp only [bank, Function.update_self, sector, true_and]
  -- the reset goes to address 0, whatever the block is
  rw [resetBlock_ready _ _ _ _ _ _ _ _ zero]
  refine ⟨_, rfl, ?_⟩
  intro x other
  by_cases first : x = bankOf (0 : Word32).toNat
  · rw [first, Function.update_self]
  · rw [Function.update_of_ne first, Function.update_of_ne other]

/-- In a bank that shows the status, reading the status register sets nothing
anew. -/
theorem getStatusRegister_status (inChip : addr.toNat < chipWords) (busy : Nat) :
    (idealFlash timing select).getStatusRegister addr (s.withChip select
        (.working mem locked (Function.update mode (bankOf addr.toNat) .status) errors busy
          started)) =
      (idealFlash timing select).get addr (s.withChip select
        (.working mem locked (Function.update mode (bankOf addr.toNat) .status) errors busy
          started)) := by
  unfold getStatusRegister
  rw [sendCommand_withChip _ _ _ _ inChip, NorChip.working_readStatus, Function.update_idem]

theorem unlockBlock_ready (inChip : addr.toNat < chipWords) :
    (idealFlash timing select).unlockBlock addr
        (s.withChip select (.ready mem locked mode errors started)) =
      (0, s.withChip select (.ready mem (Function.update locked (sectorOf addr.toNat) false)
        (Function.update mode (bankOf addr.toNat) .array) 0 (started + 1))) := by
  have busy (locked : Nat → Bool) (started k : Nat) :=
    (getStatusRegister_status timing select s mem locked mode 0 started inChip (k + 1)).trans
      (get_busy timing select s inChip (Function.update_self ..) k)
  have ready (locked : Nat → Bool) (started : Nat) :=
    (getStatusRegister_status timing select s mem locked mode 0 started inChip 0).trans
      (get_ready timing select s inChip (Function.update_self ..))
  unfold unlockBlock lockPoll lockStart clearStatusRegister
  simp only [sendCommand_withChip _ _ _ _ inChip, NorChip.ready_clrSts,
    NorChip.ready_blockLockSetup, NorChip.lockSetup_confirm]
  have polled := poll_countdown
    (fun k => s.withChip select
      (.working mem (Function.update locked (sectorOf addr.toNat) false)
        (Function.update mode (bankOf addr.toNat) .status) 0 k (started + 1)))
    (busy _ _) statusBusy_zero (ready _ _) statusBusy_flashPecBusy (timing.bounded started)
  rw [polled]
  simp only [finishBlock, clearStatusRegister, sendCommand_withChip _ _ _ _ inChip,
    NorChip.ready_clrSts, resetBlock_ready _ _ _ _ _ _ _ _ inChip, Function.update_idem, if_true]

/-- Whatever its lock bit, the block is unlocked afterwards. -/
theorem ensureUnlocked_resting (inChip : addr.toNat + 2 < chipWords)
    (start : sectorOf addr.toNat = addr.toNat) :
    ∃ mode' started', (idealFlash timing select).ensureUnlocked addr
        (s.withChip select (.resting mem locked errors started)) =
      (0, s.withChip select (.ready mem (Function.update locked addr.toNat false) mode' 0
        started')) ∧
      ∀ x, x ≠ bankOf addr.toNat → mode' x = .array := by
  obtain ⟨mode', config, others⟩ :=
    getBlockLockConfiguration_resting timing select s mem locked errors started inChip start
  unfold ensureUnlocked
  rw [config]
  cases lock : locked addr.toNat with
  | true =>
      have below : addr.toNat < chipWords := Nat.lt_of_le_of_lt (Nat.le_add_right _ 2) inChip
      simp only [if_true]
      rw [if_pos (by decide), unlockBlock_ready _ _ _ _ _ _ _ _ below, start]
      refine ⟨_, _, rfl, ?_⟩
      intro x other
      rw [Function.update_of_ne other, others x other]
  | false =>
      rw [← lock, Function.update_eq_self, lock]
      exact ⟨mode', started, rfl, others⟩

/-- Erasing an unlocked block. -/
theorem eraseBlock_ready (inChip : addr.toNat < chipWords)
    (start : sectorOf addr.toNat = addr.toNat) (unlocked : locked addr.toNat = false)
    (others : ∀ x, x ≠ bankOf addr.toNat → mode x = .array) :
    (idealFlash timing select).eraseBlock addr
        (s.withChip select (.ready mem locked mode 0 started)) =
      (0, s.withChip select (.resting
        (fun x => if sectorOf x = addr.toNat then 0xffff else mem x) locked 0
        (started + 1))) := by
  have sector : locked (sectorOf addr.toNat) = false := by rw [start, unlocked]
  unfold eraseBlock erasePoll eraseStart
  simp only [sendCommand_withChip _ _ _ _ inChip, NorChip.ready_blockEraseSetup,
    NorChip.eraseSetup_confirm timing sector]
  rw [poll_status _ _ _ inChip (Function.update_self ..) (by decide) (by decide)
    (timing.bounded started)]
  simp only [finishBlock, Bool.false_eq_true, if_false, resetBlock_ready _ _ _ _ _ _ _ _ inChip,
    Function.update_idem, update_array _ others, start]

/-- `count` words stored from address `a` on. -/
def storeWords (mem : Nat → Word16) (a count : Nat) (data : Nat → Word16) (x : Nat) : Word16 :=
  if a ≤ x ∧ x < a + count then data (x - a) else mem x

theorem writeWords_loading (data : Nat → Word16) {left i : Nat}
    (inChip : addr.toNat + (i + left) ≤ chipWords) (pending : Nat → Option Word16) :
    (idealFlash timing select).writeWords addr data left i
        (s.withChip select ⟨mem, locked, mode, .loading left pending, errors, 0, started⟩) =
      s.withChip select ⟨mem, locked, mode, .loading 0 (fun x =>
        if addr.toNat + i ≤ x ∧ x < addr.toNat + (i + left) then some (data (x - addr.toNat))
        else pending x), errors, 0, started⟩ := by
  induction left generalizing i pending with
  | zero =>
      have none (x : Nat) : ¬(addr.toNat + i ≤ x ∧ x < addr.toNat + (i + 0)) := by omega
      simp only [writeWords, none, if_false]
  | succ left ih =>
      have word : (addr + BitVec.ofNat 32 i).toNat = addr.toNat + i := by
        unfold chipWords at inChip
        rw [BitVec.toNat_add, BitVec.toNat_ofNat]
        omega
      have below : (addr + BitVec.ofNat 32 i).toNat < chipWords := by omega
      have stored : (idealFlash timing select).bus.set16
          (s.withChip select ⟨mem, locked, mode, .loading (left + 1) pending, errors, 0, started⟩)
          ((idealFlash timing select).baseAddr + addr + BitVec.ofNat 32 i) (data i) =
          s.withChip select ⟨mem, locked, mode,
            .loading left (Function.update pending (addr.toNat + i) (some (data i))), errors, 0,
            started⟩ := by
        rw [BitVec.add_assoc]
        refine (sendCommand_withChip timing select s _ below (data i)).trans ?_
        rw [word]
        rfl
      rw [writeWords, stored, ih (by omega)]
      congr 4
      funext x
      -- the word just stored, one that is still to come, or another
      by_cases here : x = addr.toNat + i
      · rw [if_neg (by omega), if_pos (by omega), here, Function.update_self,
          Nat.add_sub_cancel_left]
      · by_cases later : addr.toNat + (i + 1) ≤ x ∧ x < addr.toNat + (i + 1 + left)
        · rw [if_pos later, if_pos (by omega)]
        · rw [if_neg later, if_neg (by omega), Function.update_of_ne here]

/-- From the buffer program command on. -/
theorem programPoll_loading {length : Word16} {data : Nat → Word16} {blkaddr : Word32} {busy : Nat}
    (nonempty : 0 < length.toNat) (inChip : addr.toNat + length.toNat ≤ chipWords)
    (block : blkaddr.toNat = sectorOf addr.toNat)
    (inBlock : ∀ i < length.toNat, sectorOf (addr.toNat + i) = sectorOf addr.toNat)
    (unlocked : locked (sectorOf addr.toNat) = false)
    (others : ∀ x, x ≠ bankOf addr.toNat → mode x = .array) (below : busy < cfgFlashTimeout) :
    (idealFlash timing select).programPoll addr length data blkaddr
        (s.withChip select ⟨mem, locked, Function.update mode (bankOf addr.toNat) .status,
          .wordCount, 0, busy, started⟩) =
      (.programmed flashPecBusy, s.withChip select (.resting
        (storeWords mem addr.toNat length.toNat data) locked 0 (started + 1))) := by
  have first : addr.toNat < chipWords := by omega
  have blockInChip : blkaddr.toNat < chipWords := by
    rw [block]
    exact Nat.lt_of_le_of_lt (sectorOf_le _) first
  have bank : bankOf blkaddr.toNat = bankOf addr.toNat := by rw [block, bankOf_sectorOf]
  have sector : locked (sectorOf blkaddr.toNat) = false := by
    rw [block, sectorOf_idem]
    exact unlocked
  have count : (length - 1).toNat + 1 = length.toNat := by
    have bound := length.isLt
    rw [BitVec.toNat_sub_of_le (by rw [BitVec.le_def]; exact nonempty)]
    exact Nat.sub_add_cancel nonempty
  have counted : (idealFlash timing select).bus.set16
      (s.withChip select ⟨mem, locked, Function.update mode (bankOf addr.toNat) .status,
        .wordCount, 0, 0, started⟩) ((idealFlash timing select).baseAddr + addr) (length - 1) =
      s.withChip select ⟨mem, locked, Function.update mode (bankOf addr.toNat) .status,
        .loading length.toNat (fun _ => none), 0, 0, started⟩ := by
    rw [← count]
    exact sendCommand_withChip timing select s _ first (length - 1)
  have stored : (fun x => if sectorOf x = sectorOf blkaddr.toNat then
      (if addr.toNat + 0 ≤ x ∧ x < addr.toNat + (0 + length.toNat) then
        some (data (x - addr.toNat)) else none).getD (mem x) else mem x) =
      storeWords mem addr.toNat length.toNat data := by
    funext x
    rw [block, sectorOf_idem, storeWords, Nat.add_zero, Nat.zero_add]
    by_cases inside : addr.toNat ≤ x ∧ x < addr.toNat + length.toNat
    · have own := inBlock (x - addr.toNat) (by omega)
      rw [Nat.add_sub_cancel' inside.1] at own
      rw [if_pos inside, if_pos inside, if_pos own]
      rfl
    · rw [if_neg inside, if_neg inside]
      exact ite_self _
  -- wait for the buffer, load it, confirm, and wait for the chip
  unfold programPoll
  rw [poll_status timing select s first (Function.update_self ..) statusBusy_zero
    statusBusy_flashPecBusy below]
  simp only [fillBuffer, counted]
  rw [writeWords_loading timing select s mem locked _ 0 started data (by omega),
    sendCommand_withChip _ _ _ _ blockInChip, NorChip.loading_confirm timing _ sector, stored,
    poll_status timing select s blockInChip (by rw [bank]; exact Function.update_self ..)
      statusBusy_zero statusBusy_flashPecBusy (timing.bounded started)]
  simp only [finishProgram, resetBlock_ready _ _ _ _ _ _ _ _ blockInChip, bank,
    Function.update_idem, update_array _ others]
  exact if_neg (by decide)

/-- Programming words of one block. -/
theorem programBuffer_resting {length : Word16} {data : Nat → Word16} (nonempty : 0 < length.toNat)
    (inChip : addr.toNat + length.toNat ≤ chipWords)
    (inBlock : ∀ i < length.toNat, sectorOf (addr.toNat + i) = sectorOf addr.toNat) :
    ∃ locked' started', (idealFlash timing select).programBuffer addr length data
        (s.withChip select (.resting mem locked errors started)) =
      (.programmed flashPecBusy, s.withChip select (.resting
        (storeWords mem addr.toNat length.toNat data) locked' 0 started')) := by
  have first : addr.toNat < chipWords := by omega
  obtain ⟨arch, found, block, -⟩ := getFlashArchitecture_sector first
  have start : sectorOf arch.blkaddr.toNat = arch.blkaddr.toNat := by rw [block, sectorOf_idem]
  have blockInChip : arch.blkaddr.toNat < chipWords := by
    rw [block]
    exact Nat.lt_of_le_of_lt (sectorOf_le _) first
  obtain ⟨mode', started', ensured, others⟩ := ensureUnlocked_resting timing select s mem locked
    errors started (sector_add_two_lt start blockInChip) start
  rw [block, bankOf_sectorOf] at others
  have setup : (idealFlash timing select).programSetup addr
      (s.withChip select (.resting mem locked errors started)) =
      (.ok arch, s.withChip select ⟨mem, Function.update locked arch.blkaddr.toNat false,
        Function.update mode' (bankOf addr.toNat) .status, .wordCount, 0, timing.polls started',
        started' + 1⟩) := by
    unfold programSetup
    simp only [found, ensured]
    rw [if_neg (by omega), sendCommand_withChip _ _ _ _ first, NorChip.ready_bufferProg]
  unfold programBuffer
  rw [setup]
  refine ⟨_, _, programPoll_loading timing select s mem _ mode' _ nonempty inChip block inBlock ?_
    others (timing.bounded started')⟩
  rw [← block]
  exact Function.update_self ..

end Operations

end Flash
end Librorc
