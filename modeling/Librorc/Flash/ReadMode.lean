import Librorc.Flash.IdealChip
import Librorc.Flash.Status

/-!
# Back in read array mode

A chip that only keeps the read mode of each bank; what it answers to a read is
arbitrary. The functions of the class are run on it one after the other. Where
one of them does not come to its last `resetBlock`, or resets another block than
the one it was given, a bank stays in another mode.
-/

namespace Librorc

open Librorc.Lib

/-- What the chip takes the next write for. -/
inductive WritePhase
  | command
  /-- The second write of a command. -/
  | confirm
  | wordCount
  | loading (left : Nat)

/-- The read mode by bank. The words read so far are counted. -/
structure ModeChip where
  mode : Nat → ReadMode
  phase : WritePhase
  reads : Nat

namespace ModeChip

def setMode (c : ModeChip) (bank : Nat) (m : ReadMode) : ModeChip :=
  { c with mode := Function.update c.mode bank m }

def command (c : ModeChip) (bank : Nat) (w : Word16) : ModeChip :=
  if w = flashCmdReadArray ∨ w = flashCmdReset then c.setMode bank .array
  else if w = flashCmdReadIdentifier then c.setMode bank .identifier
  else if w = flashCmdReadStatus then c.setMode bank .status
  else if w = flashCmdBlockEraseSetup ∨ w = flashCmdBlockLockSetup then
    { c.setMode bank .status with phase := .confirm }
  else if w = flashCmdBufferProg then { c.setMode bank .status with phase := .wordCount }
  else c

def write (c : ModeChip) (bank : Nat) (w : Word16) : ModeChip :=
  match c.phase with
  | .command => c.command bank w
  | .confirm => { c with phase := .command }
  -- the driver writes the count less one
  | .wordCount => { c with phase := .loading (w.toNat + 1) }
  | .loading (left + 1) => { c with phase := .loading left }
  -- all words are loaded
  | .loading 0 => { c with phase := .command }

/-- All banks are in read array mode, but `bank` possibly. -/
def showing (bank : Nat) (m : ReadMode) (phase : WritePhase) (reads : Nat) : ModeChip :=
  ⟨Function.update (fun _ => .array) bank m, phase, reads⟩

/-- Read array mode in every bank. -/
def AllArray (c : ModeChip) : Prop := ∀ bank, c.mode bank = .array

/-- And ready for a command. -/
def Rests (c : ModeChip) : Prop := c.AllArray ∧ c.phase = .command

theorem showing_allArray_iff {bank : Nat} {m : ReadMode} {phase : WritePhase} {reads : Nat} :
    (showing bank m phase reads).AllArray ↔ m = .array := by
  constructor
  · intro all
    have here : Function.update (fun _ => ReadMode.array) bank m bank = .array := all bank
    rwa [Function.update_self] at here
  · rintro rfl other
    rw [showing, Function.update_eq_self_iff.mpr rfl]

theorem rests_eq_showing {c : ModeChip} (rests : c.Rests) (bank : Nat) :
    c = showing bank .array .command c.reads := by
  obtain ⟨all, command⟩ := rests
  cases c with
  | mk mode phase reads =>
      obtain rfl : phase = .command := command
      obtain rfl : mode = fun _ => .array := funext all
      rw [showing, Function.update_eq_self_iff.mpr rfl]

theorem setMode_showing {bank : Nat} {m m' : ReadMode} {phase : WritePhase} {reads : Nat} :
    (showing bank m phase reads).setMode bank m' = showing bank m' phase reads := by
  rw [setMode, showing, showing, Function.update_idem]

end ModeChip

/-- A flash window whose reads are answered by a sequence of words. -/
def answeringBus (answer : Nat → Word16) : FlashBus ModeChip where
  set16 c addr w := c.write (bankOf addr.toNat) w
  get16 c _ := (answer c.reads, { c with reads := c.reads + 1 })

def answeringFlash (answer : Nat → Word16) (chipSelect : Word32) : Flash ModeChip :=
  ⟨answeringBus answer, chipSelect⟩

/-! ## Calls -/

inductive FlashCall
  | getManufacturerCode
  | getDeviceID
  | getUniqueDeviceNumber
  | getReadConfigurationRegister
  | getBlockLockConfiguration (blkaddr : Word32)
  | programBuffer (addr : Word32) (length : Word16) (data : Nat → Word16)
  | eraseBlock (blkaddr : Word32)
  | lockBlock (blkaddr : Word32)
  | unlockBlock (blkaddr : Word32)

/-- The chip when the call returns. -/
def FlashCall.run {σ : Type*} (f : Flash σ) (s : σ) : FlashCall → σ
  | .getManufacturerCode => (f.getManufacturerCode s).2
  | .getDeviceID => (f.getDeviceID s).2
  | .getUniqueDeviceNumber => (f.getUniqueDeviceNumber s).2
  | .getReadConfigurationRegister => (f.getReadConfigurationRegister s).2
  | .getBlockLockConfiguration blkaddr => (f.getBlockLockConfiguration blkaddr s).2
  | .programBuffer addr length data => (f.programBuffer addr length data s).2
  | .eraseBlock blkaddr => (f.eraseBlock blkaddr s).2
  | .lockBlock blkaddr => (f.lockBlock blkaddr s).2
  | .unlockBlock blkaddr => (f.unlockBlock blkaddr s).2

/-- After each call of a sequence every bank is in read array mode. -/
def ReturnsToArray (f : Flash ModeChip) : List FlashCall → ModeChip → Prop
  | [], _ => True
  | call :: rest, c => (call.run f c).AllArray ∧ ReturnsToArray f rest (call.run f c)

/-! ## Which answers bring every bank back -/

/-- The bank of a word address, counted over both chips. -/
def bankAt (chipSelect addr : Word32) : Nat :=
  bankOf ((chipSelect <<< flashChipSelectBit) + addr).toNat

/-- The number of words `programBuffer` reads until the block counts as
unlocked. -/
inductive UnlockReads (words : Nat → Word16) : Nat → Prop
  | unlocked : words 0 = 0 → UnlockReads words 2
  | ready {i : Nat} : words 0 ≠ 0 →
      FirstReady statusBusy cfgFlashTimeout (fun k => words (2 + k)) i → UnlockReads words (i + 4)
  /-- A timeout with a zero status is taken for success. -/
  | silent : words 0 ≠ 0 → (∀ i < cfgFlashTimeout, statusBusy (words (2 + i)) = true) →
      words (2 + cfgFlashTimeout) = 0 → UnlockReads words (cfgFlashTimeout + 3)

theorem UnlockReads.unique {words : Nat → Word16} {n n' : Nat} (reads : UnlockReads words n)
    (reads' : UnlockReads words n') : n = n' := by
  cases reads with
  | unlocked zero =>
      cases reads' with
      | unlocked => rfl
      | ready locked => exact absurd zero locked
      | silent locked => exact absurd zero locked
  | ready locked first =>
      cases reads' with
      | unlocked zero => exact absurd zero locked
      | ready _ first' => rw [first.unique first']
      | silent _ busy => exact (first.not_late busy).elim
  | silent locked busy =>
      cases reads' with
      | unlocked zero => exact absurd zero locked
      | ready _ first => exact (first.not_late busy).elim
      | silent => rfl

/-- Two waits, one after the other, end in time, the second one with nothing but
the ready bit. -/
def WaitsReady (words : Nat → Word16) : Prop :=
  ∃ i j, FirstReady statusBusy cfgFlashTimeout words i ∧
    FirstReady statusBusy cfgFlashTimeout (fun k => words (i + 1 + k)) j ∧
    words (i + 1 + j) = flashPecBusy

/-- Both waits of `programBuffer` do, after the block has been unlocked. -/
def ProgramReady (words : Nat → Word16) : Prop :=
  ∃ n, UnlockReads words n ∧ WaitsReady fun k => words (n + k)

/-- The wait of a block operation ends in time. -/
def BlockReady (busy : Word16 → Bool) (words : Nat → Word16) : Prop :=
  ∃ i, FirstReady busy cfgFlashTimeout words i

/-- The answers with which a call gets to the reset of the bank it has used. -/
def FlashCall.Restores (chipSelect : Word32) (words : Nat → Word16) : FlashCall → Prop
  | .getManufacturerCode | .getDeviceID | .getUniqueDeviceNumber
  | .getReadConfigurationRegister => True
  | .getBlockLockConfiguration blkaddr => bankAt chipSelect blkaddr = bankAt chipSelect 0
  | .programBuffer addr length _ =>
      getFlashArchitecture addr = none ∨ (length ≠ 0 ∧ ProgramReady words)
  | .eraseBlock _ => BlockReady Flash.eraseBusy words
  | .lockBlock _ | .unlockBlock _ => BlockReady statusBusy words

/-- Every call of a sequence gets there. The answers to a call start where those
to the calls before it ended. -/
def AllRestore (answer : Nat → Word16) (chipSelect : Word32) : List FlashCall → ModeChip → Prop
  | [], _ => True
  | call :: rest, c =>
      call.Restores chipSelect (fun k => answer (c.reads + k)) ∧
        AllRestore answer chipSelect rest (call.run (answeringFlash answer chipSelect) c)

/-! ## Single writes -/

namespace ModeChip

variable {bank n : Nat} {m : ReadMode}

theorem write_identifier : (showing bank m .command n).write bank flashCmdReadIdentifier =
    showing bank .identifier .command n := setMode_showing

theorem write_status : (showing bank m .command n).write bank flashCmdReadStatus =
    showing bank .status .command n := setMode_showing

theorem write_clear (other : Nat) : (showing bank m .command n).write other flashCmdClrSts =
    showing bank m .command n := rfl

/-- The two setup commands. -/
theorem write_setup {w : Word16}
    (setup : w = flashCmdBlockEraseSetup ∨ w = flashCmdBlockLockSetup) :
    (showing bank m .command n).write bank w = showing bank .status .confirm n := by
  have mode : (showing bank m .confirm n).setMode bank .status =
      showing bank .status .confirm n := setMode_showing
  rcases setup with rfl | rfl
  · exact mode
  · exact mode

theorem write_bufferProg : (showing bank m .command n).write bank flashCmdBufferProg =
    showing bank .status .wordCount n := by
  have mode : (showing bank m .wordCount n).setMode bank .status =
      showing bank .status .wordCount n := setMode_showing
  exact mode

theorem write_confirm (other : Nat) (w : Word16) :
    (showing bank m .confirm n).write other w = showing bank m .command n := rfl

end ModeChip

/-! ## Single operations -/

section

open ModeChip

variable (answer : Nat → Word16) (chipSelect : Word32)

/-- The bank of the block shows its array again. -/
theorem resetBlock_command (blkaddr : Word32) {c : ModeChip} (command : c.phase = .command) :
    ((answeringFlash answer chipSelect).resetBlock blkaddr c).2 =
      ⟨Function.update c.mode (bankAt chipSelect blkaddr) .array, .command, c.reads + 1⟩ := by
  cases c with
  | mk mode phase reads =>
      obtain rfl : phase = .command := command
      show ModeChip.mk (Function.update (Function.update (Function.update mode
        (bankAt chipSelect blkaddr) .status) (bankAt chipSelect blkaddr) .array)
          (bankAt chipSelect blkaddr) .array) .command (reads + 1) = _
      rw [Function.update_idem, Function.update_idem]

theorem resetBlock_showing (blkaddr : Word32) (m : ReadMode) (n : Nat) :
    ((answeringFlash answer chipSelect).resetBlock blkaddr
      (showing (bankAt chipSelect blkaddr) m .command n)).2 =
      showing (bankAt chipSelect blkaddr) .array .command (n + 1) := by
  rw [resetBlock_command answer chipSelect blkaddr rfl, showing, showing, Function.update_idem]

/-- A block of another bank. -/
theorem resetBlock_other {blkaddr : Word32} {bank : Nat} (other : bankAt chipSelect blkaddr ≠ bank)
    (m : ReadMode) (n : Nat) :
    ((answeringFlash answer chipSelect).resetBlock blkaddr (showing bank m .command n)).2 =
      showing bank m .command (n + 1) := by
  have already : Function.update (fun _ => ReadMode.array) bank m (bankAt chipSelect blkaddr) =
      .array := Function.update_of_ne other ..
  rw [resetBlock_command answer chipSelect blkaddr rfl, showing, showing,
    Function.update_eq_self_iff.mpr already.symm]

/-- Reads that answer and change nothing else. -/
theorem get_showing (addr : Word32) (bank : Nat) (m : ReadMode) (phase : WritePhase) (n : Nat) :
    (answeringFlash answer chipSelect).get addr (showing bank m phase n) =
      (answer n, showing bank m phase (n + 1)) := rfl

theorem getStatusRegister_showing (blkaddr : Word32) (m : ReadMode) (n : Nat) :
    (answeringFlash answer chipSelect).getStatusRegister blkaddr
      (showing (bankAt chipSelect blkaddr) m .command n) =
      (answer n, showing (bankAt chipSelect blkaddr) .status .command (n + 1)) := by
  show (answeringFlash answer chipSelect).get blkaddr
    ((showing (bankAt chipSelect blkaddr) m .command n).write (bankAt chipSelect blkaddr)
      flashCmdReadStatus) = _
  rw [write_status, get_showing]

theorem identify_showing (blkaddr : Word32) (n : Nat) :
    (answeringFlash answer chipSelect).sendCommand
        (showing (bankAt chipSelect blkaddr) .array .command n) blkaddr flashCmdReadIdentifier =
      showing (bankAt chipSelect blkaddr) .identifier .command n := write_identifier

/-- The bank the last reset of an identifier query does not reach keeps the
mode. -/
theorem getBlockLockConfiguration_showing (blkaddr : Word32) (n : Nat) :
    (answeringFlash answer chipSelect).getBlockLockConfiguration blkaddr
        (showing (bankAt chipSelect blkaddr) .array .command n) =
      (answer n, showing (bankAt chipSelect blkaddr)
        (if bankAt chipSelect blkaddr = bankAt chipSelect 0 then .array else .identifier)
          .command (n + 2)) := by
  show (answer n, ((answeringFlash answer chipSelect).resetBlock 0
    ((answeringFlash answer chipSelect).get (blkaddr + 0x02)
      ((answeringFlash answer chipSelect).sendCommand
        (showing (bankAt chipSelect blkaddr) .array .command n) blkaddr
          flashCmdReadIdentifier)).2).2) = _
  rw [identify_showing, get_showing]
  by_cases same : bankAt chipSelect blkaddr = bankAt chipSelect 0
  · rw [if_pos same, same, resetBlock_showing]
  · rw [if_neg same, resetBlock_other answer chipSelect (Ne.symm same)]

/-- How a block operation ends whose wait starts with answer number `n`: ready and
back in read array mode, or with a timeout in status mode. -/
def BlockEnds (busy : Word16 → Bool) (bank n : Nat) (result : Int × ModeChip) : Prop :=
  (∃ i, FirstReady busy cfgFlashTimeout (fun k => answer (n + k)) i ∧
    result = (0, showing bank .array .command (n + i + 2))) ∨
  ((∀ i < cfgFlashTimeout, busy (answer (n + i)) = true) ∧
    result = (negStatus (answer (n + cfgFlashTimeout)),
      showing bank .status .command (n + cfgFlashTimeout + 1)))

theorem finishBlock_ends {read : ModeChip → Word16 × ModeChip} (busy : Word16 → Bool)
    (blkaddr : Word32) (clear : Bool)
    (reads : ∀ n, read (showing (bankAt chipSelect blkaddr) .status .command n) =
      (answer n, showing (bankAt chipSelect blkaddr) .status .command (n + 1))) (n : Nat) :
    BlockEnds answer busy (bankAt chipSelect blkaddr) n
      ((answeringFlash answer chipSelect).finishBlock blkaddr clear
        (poll read busy cfgFlashTimeout
          (showing (bankAt chipSelect blkaddr) .status .command n))) := by
  rcases poll_numbered reads busy cfgFlashTimeout n with ⟨i, first, ended⟩ | ⟨all, ended⟩
  · left
    refine ⟨i, first, ?_⟩
    rw [ended]
    have cleared : ∀ c, c = showing (bankAt chipSelect blkaddr) .status .command (n + i + 1) →
        ((0 : Int), ((answeringFlash answer chipSelect).resetBlock blkaddr c).2) =
          (0, showing (bankAt chipSelect blkaddr) .array .command (n + i + 2)) := by
      rintro c rfl
      rw [resetBlock_showing]
    cases clear with
    | true => exact cleared _ (write_clear (bankAt chipSelect blkaddr))
    | false => exact cleared _ rfl
  · right
    refine ⟨all, ?_⟩
    rw [ended]
    rfl

/-- The state in which `eraseBlock`, `lockBlock` and `unlockBlock` wait. -/
theorem setup_showing (blkaddr : Word32) {setup : Word16}
    (isSetup : setup = flashCmdBlockEraseSetup ∨ setup = flashCmdBlockLockSetup)
    (confirm : Word16) (m : ReadMode) (n : Nat) :
    (answeringFlash answer chipSelect).sendCommand
        ((answeringFlash answer chipSelect).sendCommand
          (showing (bankAt chipSelect blkaddr) m .command n) blkaddr setup) blkaddr confirm =
      showing (bankAt chipSelect blkaddr) .status .command n := by
  show ((showing (bankAt chipSelect blkaddr) m .command n).write (bankAt chipSelect blkaddr)
    setup).write (bankAt chipSelect blkaddr) confirm = _
  rw [write_setup isSetup, write_confirm]

theorem eraseBlock_ends (blkaddr : Word32) (n : Nat) :
    BlockEnds answer Flash.eraseBusy (bankAt chipSelect blkaddr) n
      ((answeringFlash answer chipSelect).eraseBlock blkaddr
        (showing (bankAt chipSelect blkaddr) .array .command n)) := by
  have start := setup_showing answer chipSelect blkaddr (.inl rfl) flashCmdConfirm .array n
  unfold Flash.eraseBlock Flash.erasePoll Flash.eraseStart
  simp only
  rw [start]
  exact finishBlock_ends answer chipSelect Flash.eraseBusy blkaddr false
    (fun n => get_showing answer chipSelect blkaddr _ _ _ n) n

/-- `lockBlock` and `unlockBlock`, by the command that confirms. -/
theorem lockBlock_ends (confirm : Word16) (blkaddr : Word32) (m : ReadMode) (n : Nat) :
    BlockEnds answer statusBusy (bankAt chipSelect blkaddr) n
      ((answeringFlash answer chipSelect).finishBlock blkaddr true
        ((answeringFlash answer chipSelect).lockPoll confirm blkaddr
          (showing (bankAt chipSelect blkaddr) m .command n))) := by
  have start := setup_showing answer chipSelect blkaddr (.inr rfl) confirm m n
  have cleared : (answeringFlash answer chipSelect).clearStatusRegister
      (showing (bankAt chipSelect blkaddr) m .command n) blkaddr =
      showing (bankAt chipSelect blkaddr) m .command n := write_clear (bankAt chipSelect blkaddr)
  unfold Flash.lockPoll Flash.lockStart
  simp only
  rw [cleared, start]
  exact finishBlock_ends answer chipSelect statusBusy blkaddr true
    (fun n => getStatusRegister_showing answer chipSelect blkaddr .status n) n

/-! ## Programming -/

theorem answer_add (n m : Nat) :
    (fun k => answer (n + m + k)) = fun k => answer (n + (m + k)) := by
  funext k
  rw [Nat.add_assoc]

theorem ensureUnlocked_showing (blkaddr : Word32) (n : Nat) :
    (∃ k m, UnlockReads (fun j => answer (n + j)) k ∧
      (answeringFlash answer chipSelect).ensureUnlocked blkaddr
          (showing (bankAt chipSelect blkaddr) .array .command n) =
        (0, showing (bankAt chipSelect blkaddr) m .command (n + k))) ∨
    ((∀ k, ¬ UnlockReads (fun j => answer (n + j)) k) ∧ ∃ ret k, ret < 0 ∧
      (answeringFlash answer chipSelect).ensureUnlocked blkaddr
          (showing (bankAt chipSelect blkaddr) .array .command n) =
        (ret, showing (bankAt chipSelect blkaddr) .status .command k)) := by
  unfold Flash.ensureUnlocked
  rw [getBlockLockConfiguration_showing]
  by_cases locked : answer n = 0
  · left
    refine ⟨2, if bankAt chipSelect blkaddr = bankAt chipSelect 0 then .array else .identifier,
      .unlocked locked, ?_⟩
    simp only
    rw [if_neg (not_not.mpr locked)]
  · simp only
    rw [if_pos locked]
    rcases lockBlock_ends answer chipSelect flashCmdConfirm blkaddr
      (if bankAt chipSelect blkaddr = bankAt chipSelect 0 then .array else .identifier) (n + 2)
      with ⟨i, first, ended⟩ | ⟨busy, ended⟩
    · left
      rw [answer_add] at first
      refine ⟨i + 4, .array, .ready locked first, ?_⟩
      rw [Flash.unlockBlock, ended, show n + 2 + i + 2 = n + (i + 4) by omega]
    · have allBusy : ∀ i < cfgFlashTimeout, statusBusy (answer (n + (2 + i))) = true := by
        intro i inTime
        rw [← Nat.add_assoc]
        exact busy i inTime
      by_cases zero : answer (n + 2 + cfgFlashTimeout) = 0
      · left
        refine ⟨cfgFlashTimeout + 3, .status, .silent locked allBusy ?_, ?_⟩
        · rw [← Nat.add_assoc]
          exact zero
        · rw [Flash.unlockBlock, ended, zero,
            show n + 2 + cfgFlashTimeout + 1 = n + (cfgFlashTimeout + 3) by omega]
          rfl
      · right
        refine ⟨?_, _, _, (negStatus_neg_iff _).mpr zero, ended⟩
        intro k reads
        cases reads with
        | unlocked free => exact locked free
        | ready _ first => exact first.not_late allBusy
        | silent _ _ last => exact zero (Nat.add_assoc n 2 _ ▸ last)

theorem writeWords_showing (addr : Word32) (data : Nat → Word16) (bank : Nat) (m : ReadMode)
    (left count i n : Nat) :
    (answeringFlash answer chipSelect).writeWords addr data count i
        (showing bank m (.loading (left + count)) n) =
      showing bank m (.loading left) n := by
  induction count generalizing i with
  | zero => rfl
  | succ count ih => exact ih (i + 1)

/-- Without a word to load, the confirm command is taken for the first of
65536. -/
theorem fillBuffer_showing (addr blkaddr : Word32) (length : Word16) (data : Nat → Word16)
    (bank : Nat) (m : ReadMode) (n : Nat) :
    (answeringFlash answer chipSelect).fillBuffer addr length data blkaddr
        (showing bank m .wordCount n) =
      showing bank m (if length = 0 then .loading 65535 else .command) n := by
  have filled : (answeringFlash answer chipSelect).fillBuffer addr length data blkaddr
      (showing bank m .wordCount n) =
      (answeringFlash answer chipSelect).sendCommand
        ((answeringFlash answer chipSelect).writeWords addr data length.toNat 0
          (showing bank m (.loading ((length - 1).toNat + 1)) n)) blkaddr flashCmdConfirm := rfl
  rw [filled]
  by_cases none : length = 0
  · subst none
    rw [if_pos rfl]
    rfl
  · have count : (length - 1).toNat + 1 = 0 + length.toNat := by bv_omega
    rw [if_neg none, count, writeWords_showing]
    rfl

/-- From the buffer program command on, with the block's bank in status mode. -/
theorem programPoll_showing (addr blkaddr : Word32) (length : Word16) (data : Nat → Word16)
    (n : Nat) :
    (length ≠ 0 ∧ WaitsReady (fun k => answer (n + k)) ∧ ∃ k,
      ((answeringFlash answer chipSelect).programPoll addr length data blkaddr
          (showing (bankAt chipSelect blkaddr) .status .wordCount n)).2 =
        showing (bankAt chipSelect blkaddr) .array .command k) ∨
    ((length ≠ 0 → ¬ WaitsReady fun k => answer (n + k)) ∧ ∃ phase k,
      ((answeringFlash answer chipSelect).programPoll addr length data blkaddr
          (showing (bankAt chipSelect blkaddr) .status .wordCount n)).2 =
        showing (bankAt chipSelect blkaddr) .status phase k) := by
  have waits : ∀ word phase n, (answeringFlash answer chipSelect).get word
      (showing (bankAt chipSelect blkaddr) .status phase n) =
        (answer n, showing (bankAt chipSelect blkaddr) .status phase (n + 1)) := fun _ _ _ => rfl
  unfold Flash.programPoll
  rcases poll_numbered (waits addr .wordCount) statusBusy cfgFlashTimeout n with
    ⟨i, first, ended⟩ | ⟨busy, ended⟩
  · rw [ended]
    simp only
    rw [fillBuffer_showing]
    rcases poll_numbered (waits blkaddr (if length = 0 then .loading 65535 else .command))
      statusBusy cfgFlashTimeout (n + i + 1) with ⟨j, second, ended⟩ | ⟨busy, ended⟩
    · rw [ended, Flash.finishProgram]
      rw [Nat.add_assoc n i 1, answer_add] at second
      have word : answer (n + (i + 1 + j)) = answer (n + i + 1 + j) := by
        rw [← Nat.add_assoc, ← Nat.add_assoc]
      by_cases good : answer (n + i + 1 + j) = flashPecBusy
      · rw [if_neg (not_not.mpr good)]
        by_cases none : length = 0
        · right
          refine ⟨fun some => absurd none some, .loading 65531, n + i + 1 + j + 2, ?_⟩
          rw [if_pos none]
          rfl
        · left
          refine ⟨none, ⟨i, j, first, second, word.trans good⟩, n + i + 1 + j + 2, ?_⟩
          rw [if_neg none]
          exact resetBlock_showing answer chipSelect blkaddr .status (n + i + 1 + j + 1)
      · right
        rw [if_pos good]
        refine ⟨?_, _, _, rfl⟩
        rintro - ⟨i', j', first', second', good'⟩
        obtain rfl := first.unique first'
        obtain rfl := second.unique second'
        exact good (word.symm.trans good')
    · right
      rw [ended]
      refine ⟨?_, _, _, rfl⟩
      rintro - ⟨i', j', first', second', -⟩
      obtain rfl := first.unique first'
      rw [← answer_add, ← Nat.add_assoc] at second'
      exact second'.not_late busy
  · right
    rw [ended]
    refine ⟨?_, _, _, rfl⟩
    rintro - ⟨i', -, first', -⟩
    exact first'.not_late busy

/-- A block lies in one bank, whichever chip is selected. -/
theorem bankAt_blkaddr {addr : Word32} {arch : FlashArchitecture}
    (found : getFlashArchitecture addr = some arch) :
    bankAt chipSelect arch.blkaddr = bankAt chipSelect addr := by
  have inChip : addr.toNat < chipWords := by
    unfold getFlashArchitecture at found
    simp only at found
    split_ifs at found with main top
    · exact Nat.lt_of_le_of_lt main (by decide)
    · exact Nat.lt_of_le_of_lt top (by decide)
  obtain ⟨arch', found', sector, -⟩ := getFlashArchitecture_sector inChip
  obtain rfl := Option.some.inj (found.symm.trans found')
  have base : ∃ k < 512, (chipSelect <<< flashChipSelectBit).toNat = k * chipWords := by
    refine ⟨chipSelect.toNat % 512, Nat.mod_lt _ (by decide), ?_⟩
    rw [BitVec.toNat_shiftLeft, Nat.shiftLeft_eq, flashChipSelectBit, chipWords]
    omega
  obtain ⟨k, small, base⟩ := base
  have window : ∀ a : Word32, a.toNat < chipWords →
      bankAt chipSelect a = k * 16 + bankOf a.toNat := by
    intro a inside
    unfold chipWords at inside base
    rw [bankAt, BitVec.toNat_add, base, Nat.mod_eq_of_lt (by omega), bankOf, bankOf]
    omega
  rw [window _ inChip, window _ (sector ▸ Nat.lt_of_le_of_lt (sectorOf_le _) inChip), sector,
    bankOf_sectorOf]

theorem queryIdentifier_showing (offset : Word32) (n : Nat) :
    ((answeringFlash answer chipSelect).queryIdentifier offset
      (showing (bankAt chipSelect 0) .array .command n)).2 =
      showing (bankAt chipSelect 0) .array .command (n + 2) := by
  unfold Flash.queryIdentifier
  rw [identify_showing]
  exact resetBlock_showing answer chipSelect 0 .identifier (n + 1)

theorem addWords_showing (bank : Nat) (m : ReadMode) (left i : Nat) (number : Option Word64)
    (n : Nat) :
    ((answeringFlash answer chipSelect).addWords left i number (showing bank m .command n)).2 =
      showing bank m .command (n + left) := by
  induction left generalizing i number n with
  | zero => rfl
  | succ left ih =>
      refine (ih (i + 1) _ (n + 1)).trans ?_
      rw [Nat.add_assoc, Nat.add_comm 1 left]

theorem getUniqueDeviceNumber_showing (n : Nat) :
    ((answeringFlash answer chipSelect).getUniqueDeviceNumber
      (showing (bankAt chipSelect 0) .array .command n)).2 =
      showing (bankAt chipSelect 0) .array .command (n + 5) := by
  unfold Flash.getUniqueDeviceNumber
  simp only
  rw [identify_showing, addWords_showing, resetBlock_showing]

/-! ## Every call -/

/-- A call from a chip at rest comes back to rest, or leaves a bank in another
mode; the answers decide. -/
def Settles (answer : Nat → Word16) (chipSelect : Word32) (call : FlashCall) (c : ModeChip) :
    Prop :=
  (call.Restores chipSelect (fun k => answer (c.reads + k)) ∧
    (call.run (answeringFlash answer chipSelect) c).Rests) ∨
  (¬ call.Restores chipSelect (fun k => answer (c.reads + k)) ∧
    ¬ (call.run (answeringFlash answer chipSelect) c).AllArray)

theorem showing_rests (bank n : Nat) : (showing bank .array .command n).Rests :=
  ⟨showing_allArray_iff.mpr rfl, rfl⟩

theorem not_showing_allArray {bank n : Nat} {m : ReadMode} {phase : WritePhase}
    (other : m ≠ .array) : ¬ (showing bank m phase n).AllArray := by
  intro all
  exact other (showing_allArray_iff.mp all)

theorem programBuffer_settles (addr : Word32) (length : Word16) (data : Nat → Word16)
    {c : ModeChip} (rests : c.Rests) :
    Settles answer chipSelect (.programBuffer addr length data) c := by
  unfold Settles FlashCall.Restores
  simp only [FlashCall.run, Flash.programBuffer, Flash.programSetup]
  cases found : getFlashArchitecture addr with
  | none => exact .inl ⟨.inl rfl, rests⟩
  | some arch =>
      have valid : ¬ (some arch = none) := Option.some_ne_none arch
      simp only
      rw [rests_eq_showing rests (bankAt chipSelect arch.blkaddr)]
      rcases ensureUnlocked_showing answer chipSelect arch.blkaddr c.reads with
        ⟨k, m, reads, ended⟩ | ⟨stuck, ret, k, negative, ended⟩
      · -- the buffer program command goes to the word address, in the same bank
        have sent : (answeringFlash answer chipSelect).sendCommand
            (showing (bankAt chipSelect arch.blkaddr) m .command (c.reads + k)) addr
              flashCmdBufferProg =
            showing (bankAt chipSelect arch.blkaddr) .status .wordCount (c.reads + k) := by
          rw [bankAt_blkaddr chipSelect found]
          exact write_bufferProg
        rw [ended]
        simp only
        rw [if_neg (Int.lt_irrefl 0), sent]
        rcases programPoll_showing answer chipSelect addr arch.blkaddr length data (c.reads + k)
          with ⟨some, ready, n, done⟩ | ⟨never, phase, n, done⟩
        · left
          rw [answer_add] at ready
          refine ⟨.inr ⟨some, k, reads, ready⟩, ?_⟩
          rw [done]
          exact showing_rests _ _
        · right
          refine ⟨?_, ?_⟩
          · rintro (invalid | ⟨some, k', reads', ready⟩)
            · exact valid invalid
            · obtain rfl := reads.unique reads'
              rw [answer_add] at never
              exact never some ready
          · rw [done]
            exact not_showing_allArray (by decide)
      · right
        rw [ended]
        simp only
        rw [if_pos negative]
        refine ⟨?_, not_showing_allArray (by decide)⟩
        rintro (invalid | ⟨-, n, reads, -⟩)
        · exact valid invalid
        · exact stuck n reads

/-- The block operations. -/
theorem settles_of_blockEnds {call : FlashCall} {c : ModeChip} {bank : Nat}
    {busy : Word16 → Bool} {result : Int × ModeChip}
    (restores : call.Restores chipSelect (fun k => answer (c.reads + k)) ↔
      BlockReady busy fun k => answer (c.reads + k))
    (run : call.run (answeringFlash answer chipSelect) c = result.2)
    (ends : BlockEnds answer busy bank c.reads result) : Settles answer chipSelect call c := by
  unfold Settles
  rw [restores, run]
  rcases ends with ⟨i, first, rfl⟩ | ⟨late, rfl⟩
  · exact .inl ⟨⟨i, first⟩, showing_rests _ _⟩
  · refine .inr ⟨?_, not_showing_allArray (by decide)⟩
    rintro ⟨i, first⟩
    exact first.not_late late

theorem settles {c : ModeChip} (rests : c.Rests) (call : FlashCall) :
    Settles answer chipSelect call c := by
  have queried : ∀ {c'}, c' = showing (bankAt chipSelect 0) .array .command (c.reads + 2) →
      c'.Rests := by
    rintro c' rfl
    exact showing_rests _ _
  cases call with
  | getManufacturerCode =>
      refine .inl ⟨trivial, queried ?_⟩
      rw [rests_eq_showing rests (bankAt chipSelect 0)]
      exact queryIdentifier_showing answer chipSelect 0x00 c.reads
  | getDeviceID =>
      refine .inl ⟨trivial, queried ?_⟩
      rw [rests_eq_showing rests (bankAt chipSelect 0)]
      exact queryIdentifier_showing answer chipSelect 0x01 c.reads
  | getUniqueDeviceNumber =>
      refine .inl ⟨trivial, ?_⟩
      rw [rests_eq_showing rests (bankAt chipSelect 0)]
      show ((answeringFlash answer chipSelect).getUniqueDeviceNumber _).2.Rests
      rw [getUniqueDeviceNumber_showing]
      exact showing_rests _ _
  | getReadConfigurationRegister =>
      refine .inl ⟨trivial, queried ?_⟩
      rw [rests_eq_showing rests (bankAt chipSelect 0)]
      exact queryIdentifier_showing answer chipSelect 0x05 c.reads
  | getBlockLockConfiguration blkaddr =>
      unfold Settles FlashCall.Restores
      simp only [FlashCall.run]
      rw [rests_eq_showing rests (bankAt chipSelect blkaddr), getBlockLockConfiguration_showing]
      by_cases same : bankAt chipSelect blkaddr = bankAt chipSelect 0
      · rw [if_pos same]
        exact .inl ⟨same, showing_rests _ _⟩
      · rw [if_neg same]
        exact .inr ⟨same, not_showing_allArray (by decide)⟩
  | programBuffer addr length data =>
      exact programBuffer_settles answer chipSelect addr length data rests
  | eraseBlock blkaddr =>
      have ends := eraseBlock_ends answer chipSelect blkaddr c.reads
      rw [← rests_eq_showing rests] at ends
      exact settles_of_blockEnds answer chipSelect Iff.rfl rfl ends
  | lockBlock blkaddr =>
      have ends :=
        lockBlock_ends answer chipSelect flashCmdBlockLockConfirm blkaddr .array c.reads
      rw [← rests_eq_showing rests] at ends
      exact settles_of_blockEnds answer chipSelect Iff.rfl rfl ends
  | unlockBlock blkaddr =>
      have ends := lockBlock_ends answer chipSelect flashCmdConfirm blkaddr .array c.reads
      rw [← rests_eq_showing rests] at ends
      exact settles_of_blockEnds answer chipSelect Iff.rfl rfl ends

/-- A sequence of calls leaves every bank in read array mode after each call
exactly when each of them gets to the reset of the bank it has used. -/
theorem returnsToArray_iff (calls : List FlashCall) {c : ModeChip} (rests : c.Rests) :
    ReturnsToArray (answeringFlash answer chipSelect) calls c ↔
      AllRestore answer chipSelect calls c := by
  induction calls generalizing c with
  | nil => exact Iff.rfl
  | cons call calls ih =>
      unfold ReturnsToArray AllRestore
      rcases settles answer chipSelect rests call with ⟨restores, rests'⟩ | ⟨fails, left⟩
      · rw [ih rests']
        exact and_congr_left' (iff_of_true rests'.1 restores)
      · exact iff_of_false (fun returns => left returns.1) fun all => fails all.1

end

def restingChip : ModeChip := ⟨fun _ => .array, .command, 0⟩

theorem returnsToArray_iff_lockErase :
    ReturnsToArray (answeringFlash (fun _ => 0x0080) 1)
        [.getDeviceID, .unlockBlock 0x10000, .eraseBlock 0x10000, .lockBlock 0x10000] restingChip ↔
      AllRestore (fun _ => 0x0080) 1
        [.getDeviceID, .unlockBlock 0x10000, .eraseBlock 0x10000, .lockBlock 0x10000] restingChip :=
  returnsToArray_iff (fun _ => 0x0080) 1 _ ⟨fun _ => rfl, rfl⟩

/-- The lock configuration of a block in the second bank is asked for; the reset
goes to the first bank. -/
theorem not_returnsToArray_secondBank :
    ¬ ReturnsToArray (answeringFlash (fun _ => 0) 0) [.getBlockLockConfiguration 0x80000]
      restingChip := by
  intro returns
  exact absurd (returns.1 1) (by decide)

end Librorc
