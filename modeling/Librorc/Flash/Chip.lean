import Librorc.Dma.Device
import Librorc.Lib.Poll

/-!
# `librorc::flash`: the command sequences

The chip is whatever answers 16-bit reads and writes on the flash window
(`FlashBus`); nothing is assumed of its answers. Every function of the class
is the sequence of commands it sends, with the chip's state passed along, and
every wait is the bounded polling loop of the library.
-/

namespace Librorc

open Librorc.Lib

/-! ## Commands and sizes -/

def flashCmdReadArray : Word16 := 0xffff
def flashCmdReset : Word16 := 0xf0f0
def flashCmdReadIdentifier : Word16 := 0x9090
def flashCmdReadStatus : Word16 := 0x7070
def flashCmdBlockEraseSetup : Word16 := 0x2020
def flashCmdConfirm : Word16 := 0xd0d0
def flashCmdBlockLockSetup : Word16 := 0x6060
def flashCmdBlockLockConfirm : Word16 := 0x0101
def flashCmdBufferProg : Word16 := 0xe8e8
def flashCmdClrSts : Word16 := 0x5050

/-- `CFG_FLASH_TIMEOUT`. -/
def cfgFlashTimeout : Nat := 0x10000

/-- `FLASH_PEC_BUSY`: the ready bit SR.7. -/
def flashPecBusy : Word16 := 1#16 <<< 7

def flashChipSelectBit : Nat := 23

/-- `FLASH_FILE_SIZE`. -/
def flashFileSize : Nat := 16777216

/-- `!(status & FLASH_PEC_BUSY)`. -/
def statusBusy (status : Word16) : Bool := status &&& flashPecBusy == 0

/-- The chip behind the flash window of the BAR. -/
structure FlashBus (σ : Type*) where
  set16 : σ → Word32 → Word16 → σ
  get16 : σ → Word32 → Word16 × σ

/-- `struct flash_architecture`. -/
structure FlashArchitecture where
  blkaddr : Word32
  blksize : Word32
  blknum : Word32
  bankaddr : Word32
  banksize : Word32
  banknum : Word32
deriving DecidableEq

/-- `getFlashArchitecture`: 127 main blocks of 128 kByte, then four of
32 kByte; `none` for an invalid address. -/
def getFlashArchitecture (addr : Word32) : Option FlashArchitecture :=
  let banksize := 0x100000#32
  let bankaddr := addr &&& 0xfff80000#32
  let banknum := 15#32 - (addr >>> 19)
  if addr ≤ 0x7effff#32 then
    some ⟨addr &&& 0xffff0000#32, 0x20000#32, 130#32 - (addr >>> 16), bankaddr, banksize, banknum⟩
  else if addr ≤ 0x7fffff#32 then
    some ⟨addr &&& 0xffffc000#32, 0x8000#32, 3#32 - ((addr >>> 14) &&& 0x03#32), bankaddr,
      banksize, banknum⟩
  else none

/-- `librorc::flash`. -/
structure Flash (σ : Type*) where
  bus : FlashBus σ
  chipSelect : Word32

/-- How `programBuffer` ended. -/
inductive ProgramOutcome
  | invalidAddress
  | unlockFailed (ret : Int)
  | bufferTimeout (status : Word16)
  | busyTimeout (status : Word16)
  | sequenceError (status : Word16)
  | programmed (status : Word16)
deriving DecidableEq

/-- `-status` of a `uint16_t`: the promotion to `int` comes first. -/
def negStatus (status : Word16) : Int := -(status.toNat : Int)

/-- The value `programBuffer` returns. -/
def ProgramOutcome.ret : ProgramOutcome → Int
  | .invalidAddress => -1
  | .unlockFailed ret => ret
  | .bufferTimeout status | .busyTimeout status | .sequenceError status => negStatus status
  | .programmed _ => 0

/-- The chip has programmed the buffer and reported no error. -/
def ProgramOutcome.completed : ProgramOutcome → Bool
  | .programmed _ => true
  | _ => false

/-- The status that ended the last wait, if the call got that far and no wait
timed out. -/
def ProgramOutcome.readyStatus : ProgramOutcome → Option Word16
  | .invalidAddress | .unlockFailed _ | .bufferTimeout _ | .busyTimeout _ => none
  | .sequenceError status | .programmed status => some status

namespace Flash

variable {σ : Type*} (f : Flash σ)

/-- `m_base_addr`. -/
def baseAddr : Word32 := f.chipSelect <<< flashChipSelectBit

/-! ## Single commands -/

def sendCommand (s : σ) (addr : Word32) (cmd : Word16) : σ :=
  f.bus.set16 s (f.baseAddr + addr) cmd

def get (addr : Word32) (s : σ) : Word16 × σ := f.bus.get16 s (f.baseAddr + addr)

def getStatusRegister (blkaddr : Word32) (s : σ) : Word16 × σ :=
  f.get blkaddr (f.sendCommand s blkaddr flashCmdReadStatus)

def clearStatusRegister (s : σ) (blkaddr : Word32) : σ :=
  f.sendCommand s blkaddr flashCmdClrSts

def resetBlock (blkaddr : Word32) (s : σ) : Word16 × σ :=
  let s := f.clearStatusRegister s blkaddr
  let (status, s) := f.getStatusRegister blkaddr s
  let s := f.sendCommand s blkaddr flashCmdReset
  (status, f.sendCommand s blkaddr flashCmdReadArray)

def getBlockLockConfiguration (blkaddr : Word32) (s : σ) : Word16 × σ :=
  let s := f.sendCommand s blkaddr flashCmdReadIdentifier
  let (cfg, s) := f.get (blkaddr + 0x02) s
  (cfg, (f.resetBlock 0 s).2)

/-! ## Identifier queries

They all ask the first bank. -/

def queryIdentifier (offset : Word32) (s : σ) : Word16 × σ :=
  let s := f.sendCommand s 0 flashCmdReadIdentifier
  let (word, s) := f.get offset s
  (word, (f.resetBlock 0 s).2)

def getManufacturerCode (s : σ) : Word16 × σ := f.queryIdentifier 0x00 s

def getDeviceID (s : σ) : Word16 × σ := f.queryIdentifier 0x01 s

def getReadConfigurationRegister (s : σ) : Word16 × σ := f.queryIdentifier 0x05 s

/-- `get(0x81 + i) << (16*i)`. The word is promoted to a 32-bit `int`; a shift
by as much as that has no defined value. -/
def shiftedWord (word : Word16) (i : Nat) : Option Word64 :=
  if 16 * i < 32 then some (((word.setWidth 32) <<< (16 * i)).signExtend 64) else none

/-- The loop of `getUniqueDeviceNumber`. -/
def addWords : Nat → Nat → Option Word64 → σ → Option Word64 × σ
  | 0, _, number, s => (number, s)
  | left + 1, i, number, s =>
      let (word, s) := f.get (0x81 + BitVec.ofNat 32 i) s
      addWords left (i + 1) (number.bind fun n => (shiftedWord word i).map (n + ·)) s

def getUniqueDeviceNumber (s : σ) : Option Word64 × σ :=
  let s := f.sendCommand s 0 flashCmdReadIdentifier
  let (number, s) := f.addWords 4 0 (some 0) s
  (number, (f.resetBlock 0 s).2)

/-! ## Erasing and locking -/

/-- Common end of the block operations: a timeout returns the negated status,
a ready block goes back into read array mode. -/
def finishBlock (blkaddr : Word32) (clear : Bool) : PollOutcome Word16 σ → Int × σ
  | .timeout status s => (negStatus status, s)
  | .ready _ s =>
      let s := if clear then f.clearStatusRegister s blkaddr else s
      (0, (f.resetBlock blkaddr s).2)

/-- `eraseBlock` polls on while the status is busy or all ones. -/
def eraseBusy (status : Word16) : Bool := statusBusy status || status == 0xffff

/-- The state in which `eraseBlock` starts to poll. -/
def eraseStart (blkaddr : Word32) (s : σ) : σ :=
  let s := f.sendCommand s blkaddr flashCmdBlockEraseSetup
  f.sendCommand s blkaddr flashCmdConfirm

def erasePoll (blkaddr : Word32) (s : σ) : PollOutcome Word16 σ :=
  poll (f.get blkaddr) eraseBusy cfgFlashTimeout (f.eraseStart blkaddr s)

def eraseBlock (blkaddr : Word32) (s : σ) : Int × σ :=
  f.finishBlock blkaddr false (f.erasePoll blkaddr s)

/-- `lockBlock` and `unlockBlock` differ in the command that confirms. -/
def lockStart (confirm : Word16) (blkaddr : Word32) (s : σ) : σ :=
  let s := f.clearStatusRegister s blkaddr
  let s := f.sendCommand s blkaddr flashCmdBlockLockSetup
  f.sendCommand s blkaddr confirm

def lockPoll (confirm : Word16) (blkaddr : Word32) (s : σ) : PollOutcome Word16 σ :=
  poll (f.getStatusRegister blkaddr) statusBusy cfgFlashTimeout (f.lockStart confirm blkaddr s)

def lockBlock (blkaddr : Word32) (s : σ) : Int × σ :=
  f.finishBlock blkaddr true (f.lockPoll flashCmdBlockLockConfirm blkaddr s)

def unlockBlock (blkaddr : Word32) (s : σ) : Int × σ :=
  f.finishBlock blkaddr true (f.lockPoll flashCmdConfirm blkaddr s)

/-- "Check if block is locked, try to unlock": a block that is not locked is
left alone and counts as unlocked. -/
def ensureUnlocked (blkaddr : Word32) (s : σ) : Int × σ :=
  let (locked, s) := f.getBlockLockConfiguration blkaddr s
  if locked ≠ 0 then f.unlockBlock blkaddr s else (0, s)

/-! ## Programming a buffer -/

/-- Up to the buffer program command: the block, unlocked; or the return value
of an early exit. -/
def programSetup (addr : Word32) (s : σ) : Except ProgramOutcome FlashArchitecture × σ :=
  match getFlashArchitecture addr with
  | none => (.error .invalidAddress, s)
  | some arch =>
      let (ret, s) := f.ensureUnlocked arch.blkaddr s
      if ret < 0 then (.error (.unlockFailed ret), s)
      else (.ok arch, f.sendCommand s addr flashCmdBufferProg)

/-- The loop that writes `data` word by word. -/
def writeWords (addr : Word32) (data : Nat → Word16) : Nat → Nat → σ → σ
  | 0, _, s => s
  | count + 1, i, s =>
      writeWords addr data count (i + 1)
        (f.bus.set16 s (f.baseAddr + addr + BitVec.ofNat 32 i) (data i))

/-- Word count, data and the confirm command. -/
def fillBuffer (addr : Word32) (length : Word16) (data : Nat → Word16) (blkaddr : Word32)
    (s : σ) : σ :=
  let s := f.bus.set16 s (f.baseAddr + addr) (length - 1)
  let s := f.writeWords addr data length.toNat 0 s
  f.sendCommand s blkaddr flashCmdConfirm

/-- After the last wait. -/
def finishProgram (blkaddr : Word32) : PollOutcome Word16 σ → ProgramOutcome × σ
  | .timeout status s => (.busyTimeout status, s)
  | .ready status s =>
      -- SR.5 or SR.4 nonzero: program, erase or sequence error
      if status ≠ flashPecBusy then (.sequenceError status, s)
      else (.programmed status, (f.resetBlock blkaddr s).2)

/-- From the buffer program command on. -/
def programPoll (addr : Word32) (length : Word16) (data : Nat → Word16) (blkaddr : Word32)
    (s : σ) : ProgramOutcome × σ :=
  match poll (f.get addr) statusBusy cfgFlashTimeout s with
  | .timeout status s => (.bufferTimeout status, s)
  | .ready _ s =>
      f.finishProgram blkaddr (poll (f.get blkaddr) statusBusy cfgFlashTimeout
        (f.fillBuffer addr length data blkaddr s))

def programBuffer (addr : Word32) (length : Word16) (data : Nat → Word16) (s : σ) :
    ProgramOutcome × σ :=
  match f.programSetup addr s with
  | (.error outcome, s) => (outcome, s)
  | (.ok arch, s) => f.programPoll addr length data arch.blkaddr s

/-! ## All blocks -/

/-- 127 main blocks, four small ones, and the address behind them. -/
def blockFuel : Nat := 132

/-- The block addresses from `blkaddr` on; `none` if `fuel` is not enough to see
the end. -/
def blockAddrsFrom : Nat → Word32 → Option (List Word32)
  | 0, _ => none
  | fuel + 1, blkaddr =>
      match getFlashArchitecture blkaddr with
      | none => some []
      | some arch => (blockAddrsFrom fuel (blkaddr + (arch.blksize >>> 1))).map (blkaddr :: ·)

/-- All blocks of the chip. -/
def flashBlocks : List Word32 := (blockAddrsFrom blockFuel 0).getD []

theorem flashBlocks_walk : blockAddrsFrom blockFuel 0 = some flashBlocks := by
  have ends : (blockAddrsFrom blockFuel 0).isSome = true := by decide +kernel
  obtain ⟨blocks, walk⟩ := Option.isSome_iff_exists.mp ends
  unfold flashBlocks
  rw [walk]
  rfl

/-- `resetChip` from block address `blkaddr` on; `none` when it is still
running after `fuel` blocks. -/
def resetChipFrom : Nat → Word32 → σ → Option (Word16 × σ)
  | 0, _, _ => none
  | fuel + 1, blkaddr, s =>
      match getFlashArchitecture blkaddr with
      | none => some (0, s)
      | some arch =>
          let (status, s) := f.resetBlock blkaddr s
          if statusBusy status then some (status, s)
          else resetChipFrom fuel (blkaddr + (arch.blksize >>> 1)) s

def resetChip (s : σ) : Option (Word16 × σ) := f.resetChipFrom blockFuel 0 s

/-- `erase` from word address `currentAddr` on, with `byteCount` bytes to
go. -/
def eraseFrom : Nat → Word32 → Int → σ → Option (Int × σ)
  | 0, _, _, _ => none
  | fuel + 1, currentAddr, byteCount, s =>
      if 0 < byteCount then
        match getFlashArchitecture currentAddr with
        | none => some (-1, s)
        | some arch =>
            let (status, s) := f.ensureUnlocked arch.blkaddr s
            if status < 0 then some (status, s)
            else
              let (status, s) := f.eraseBlock arch.blkaddr s
              if status < 0 then some (status, s)
              else
                eraseFrom fuel (currentAddr + (arch.blksize >>> 1))
                  (byteCount - arch.blksize.toNat) s
      else some (0, s)

def erase (byteCount : Int) (s : σ) : Option (Int × σ) := f.eraseFrom blockFuel 0 byteCount s

/-- Erasing runs out of bytes, of blocks or of luck before it runs out of
fuel. -/
theorem eraseFrom_isSome {fuel : Nat} {blkaddr : Word32} {blocks : List Word32}
    (walk : blockAddrsFrom fuel blkaddr = some blocks) (byteCount : Int) (s : σ) :
    (f.eraseFrom fuel blkaddr byteCount s).isSome = true := by
  induction fuel generalizing blkaddr blocks byteCount s with
  | zero => exact absurd walk (by simp [blockAddrsFrom])
  | succ fuel ih =>
      unfold blockAddrsFrom at walk
      unfold eraseFrom
      cases found : getFlashArchitecture blkaddr with
      | none =>
          simp only
          split <;> rfl
      | some arch =>
          simp only [found] at walk
          obtain ⟨rest, later, -⟩ := Option.map_eq_some_iff.mp walk
          simp only
          split
          · split
            · rfl
            · split
              · rfl
              · exact ih later _ _
          · rfl

theorem erase_isSome (byteCount : Int) (s : σ) : (f.erase byteCount s).isSome = true :=
  f.eraseFrom_isSome flashBlocks_walk byteCount s

end Flash

/-- A chip that answers every read with the same word. -/
def constantFlash (word : Word16) : Flash Unit :=
  ⟨⟨fun _ _ _ => (), fun _ _ => (word, ())⟩, 0⟩

end Librorc
