import Librorc.Dma.Device
import Librorc.Lib.BitField
import Librorc.Lib.Throwing
import Mathlib.Logic.Function.Basic

/-!
# `microcontroller`: the SPI programming interface

The driver writes a command word to UC_SPI_DATA and polls UC_SPI_CTRL until the
chip select is back. A command has its opcode in bits 31 to 24, an address of 16
bits below and a byte of data. The device decodes and executes every command,
in reset or not, and answers with the last two bytes it got before the data.
-/

namespace Librorc

open Librorc.Lib

/-! ## Commands -/

inductive SpiCommand
  | progEnable
  | eraseChip
  | extAddr (addr : Nat)
  | progHigh (addr : Nat) (data : Word8)
  | progLow (addr : Nat) (data : Word8)
  | writePage (addr : Nat)
  | readLow (addr : Nat)
  | readHigh (addr : Nat)
deriving DecidableEq

def ucSpiProgEnable : Word32 := 0xac530000
def ucSpiEraseChip : Word32 := 0xac800000
def ucSpiExtAddr : Word32 := 0x4d000000
def ucSpiProgHigh : Word32 := 0x48000000
def ucSpiProgLow : Word32 := 0x40000000
def ucSpiWritePage : Word32 := 0x4c000000
def ucSpiReadLow : Word32 := 0x20000000
def ucSpiReadHigh : Word32 := 0x28000000

/-- In words. -/
def ucSpiPagesize : Nat := 64

/-- `UC_SPI_PRESCALER`. -/
def ucSpiPrescaler : Word32 := 1000

namespace SpiCommand

/-- What the device makes of a command. The extended address is a byte. -/
def ofFields (opcode : Word32) (addr : Nat) (data : Word8) : Option SpiCommand :=
  if opcode = 0xac then
    if addr / 256 = 0x53 then some .progEnable
    else if addr / 256 = 0x80 then some .eraseChip
    else none
  else if opcode = 0x4d then some (.extAddr (addr % 256))
  else if opcode = 0x48 then some (.progHigh addr data)
  else if opcode = 0x40 then some (.progLow addr data)
  else if opcode = 0x4c then some (.writePage addr)
  else if opcode = 0x20 then some (.readLow addr)
  else if opcode = 0x28 then some (.readHigh addr)
  else none

def decode (cmd : Word32) : Option SpiCommand :=
  ofFields ((cmd >>> 24) &&& 0xff) ((cmd >>> 8) &&& 0xffff).toNat ((cmd &&& 0xff).setWidth 8)

end SpiCommand

section Decode

variable {opcode addr data : Word32} (opcodeFits : opcode.toNat < 2 ^ 8)
  (addrFits : addr.toNat < 2 ^ 16) (dataFits : data.toNat < 2 ^ 8)
include opcodeFits addrFits dataFits

theorem toNat_command : ((opcode <<< 24) ||| (addr <<< 8) ||| data).toNat =
    opcode.toNat * 2 ^ 24 + (addr.toNat * 2 ^ 8 + data.toNat) := by
  have low : ((addr <<< 8) ||| data).toNat = addr.toNat * 2 ^ 8 + data.toNat :=
    toNat_shiftLeft_or (by omega) dataFits
  rw [BitVec.or_assoc, toNat_shiftLeft_or (by omega) (by rw [low]; omega), low]

/-- A command whose parts fit is decoded by them. -/
theorem SpiCommand.decode_command :
    decode ((opcode <<< 24) ||| (addr <<< 8) ||| data) =
      ofFields opcode addr.toNat (data.setWidth 8) := by
  have word := toNat_command opcodeFits addrFits dataFits
  have field {x y : Word32} (same : x.toNat = y.toNat) : x = y := BitVec.eq_of_toNat_eq same
  unfold decode
  congr 1
  · apply field
    refine (@toNat_field 32 _ 24 8 (by omega)).trans ?_
    rw [word]
    omega
  · refine (@toNat_field 32 _ 8 16 (by omega)).trans ?_
    rw [word]
    omega
  · congr 1
    apply field
    refine (toNat_and_low _ (m := 8) (by omega)).trans ?_
    rw [word]
    omega

end Decode

namespace SpiCommand

variable {addr data : Word32} (addrFits : addr.toNat < 2 ^ 16)

section Data

variable (dataFits : data.toNat < 2 ^ 8)
include addrFits dataFits

theorem decode_progLow : decode (ucSpiProgLow ||| (addr <<< 8) ||| data) =
    some (.progLow addr.toNat (data.setWidth 8)) :=
  @decode_command 0x40 addr data (by decide) addrFits dataFits

theorem decode_progHigh : decode (ucSpiProgHigh ||| (addr <<< 8) ||| data) =
    some (.progHigh addr.toNat (data.setWidth 8)) :=
  @decode_command 0x48 addr data (by decide) addrFits dataFits

end Data

include addrFits

theorem decode_writePage : decode (ucSpiWritePage ||| (addr <<< 8)) =
    some (.writePage addr.toNat) := by
  rw [← @BitVec.or_zero 32 (ucSpiWritePage ||| (addr <<< 8))]
  exact @decode_command 0x4c addr 0 (by decide) addrFits (by decide)

theorem decode_readLow : decode (ucSpiReadLow ||| (addr <<< 8)) = some (.readLow addr.toNat) := by
  rw [← @BitVec.or_zero 32 (ucSpiReadLow ||| (addr <<< 8))]
  exact @decode_command 0x20 addr 0 (by decide) addrFits (by decide)

theorem decode_readHigh : decode (ucSpiReadHigh ||| (addr <<< 8)) =
    some (.readHigh addr.toNat) := by
  rw [← @BitVec.or_zero 32 (ucSpiReadHigh ||| (addr <<< 8))]
  exact @decode_command 0x28 addr 0 (by decide) addrFits (by decide)

end SpiCommand

theorem SpiCommand.eq_of_ofFields_writePage {opcode : Word32} {addr addr' : Nat} {data : Word8}
    (decoded : ofFields opcode addr data = some (.writePage addr')) : addr' = addr := by
  unfold ofFields at decoded
  repeat' split at decoded
  all_goals cases decoded
  rfl

/-- No command word carries a larger address. -/
theorem SpiCommand.decode_writePage_lt {cmd : Word32} {addr : Nat}
    (decoded : decode cmd = some (.writePage addr)) : addr < 65536 := by
  rw [eq_of_ofFields_writePage decoded]
  refine (@toNat_field 32 cmd 8 16 (by omega)).trans_lt ?_
  exact Nat.mod_lt _ (by omega)

/-! ## The device -/

/-- The page buffer and the flash, by bytes: byte `2 * a` is the low half of word
`a`. The extended address goes above the 16 bits of a command. -/
structure SpiDevice where
  buffer : Nat → Word8
  flash : Nat → Word8
  extAddr : Nat

namespace SpiDevice

/-- The word address of a command. -/
def wordAddr (d : SpiDevice) (addr : Nat) : Nat := d.extAddr * 65536 + addr

/-- Writes the buffer to the page of a word. -/
def writePage (d : SpiDevice) (addr : Nat) : SpiDevice :=
  let base := 2 * (d.wordAddr addr / ucSpiPagesize * ucSpiPagesize)
  { d with
    flash := fun k =>
      if base ≤ k ∧ k < base + 2 * ucSpiPagesize then d.buffer (k - base) else d.flash k }

end SpiDevice

def SpiCommand.effect (d : SpiDevice) : SpiCommand → SpiDevice
  | .eraseChip => { d with flash := fun _ => 0xff }
  | .extAddr addr => { d with extAddr := addr }
  | .progLow addr data =>
      { d with buffer := Function.update d.buffer (2 * (addr % ucSpiPagesize)) data }
  | .progHigh addr data =>
      { d with buffer := Function.update d.buffer (2 * (addr % ucSpiPagesize) + 1) data }
  | .writePage addr => d.writePage addr
  | .progEnable | .readLow _ | .readHigh _ => d

/-- The byte a command returns. -/
def SpiCommand.output (d : SpiDevice) : SpiCommand → Word8
  | .readLow addr => d.flash (2 * d.wordAddr addr)
  | .readHigh addr => d.flash (2 * d.wordAddr addr + 1)
  | _ => 0

namespace SpiDevice

def receive (d : SpiDevice) (cmd : Word32) : SpiDevice :=
  match SpiCommand.decode cmd with
  | some command => command.effect d
  | none => d

/-- What has been clocked in when the last byte is out. -/
def response (d : SpiDevice) (cmd : Word32) : Word32 :=
  let data : Word8 :=
    match SpiCommand.decode cmd with
    | some command => command.output d
    | none => 0
  ((cmd >>> 16) <<< 8) ||| data.setWidth 32

end SpiDevice

/-- The registers in front of it. `pending` is the number of reads of UC_SPI_CTRL
that will still find the chip selected; command number `k` takes `latency k`. -/
structure UcSpi where
  device : SpiDevice
  ctrl : Word32
  data : Word32
  pending : Nat
  sent : List Word32
  latency : Nat → Nat
  latency_le : ∀ k, latency k ≤ 10000

namespace UcSpi

/-- The bit of UC_SPI_CTRL that shows the chip select. -/
def selected : Word32 := 1#32 <<< 31

/-- `set32(RORC_REG_UC_SPI_DATA, …)`. -/
def setData (cmd : Word32) (s : UcSpi) : UcSpi :=
  { s with
    device := s.device.receive cmd
    data := s.device.response cmd
    pending := s.latency s.sent.length
    sent := s.sent ++ [cmd] }

/-- `get32(RORC_REG_UC_SPI_CTRL)`. -/
def getCtrl (s : UcSpi) : Word32 × UcSpi :=
  match s.pending with
  | 0 => (s.ctrl &&& ~~~selected, s)
  | k + 1 => (s.ctrl ||| selected, { s with pending := k })

theorem and_selected_of_idle (ctrl : Word32) : (ctrl &&& ~~~selected) &&& selected = 0 := by
  have none : ~~~selected &&& selected = 0 := by decide
  rw [BitVec.and_assoc, none]
  exact BitVec.and_zero

theorem and_selected_of_busy (ctrl : Word32) : (ctrl ||| selected) &&& selected ≠ 0 := by
  intro none
  have bit := congrArg (fun w => w.getLsbD 31) none
  have high : selected.getLsbD 31 = true := by decide
  rw [BitVec.getLsbD_and, BitVec.getLsbD_or, high, Bool.or_true] at bit
  cases bit

theorem getCtrl_of_idle {s : UcSpi} (idle : s.pending = 0) :
    s.getCtrl = (s.ctrl &&& ~~~selected, s) := by
  rw [getCtrl, idle]

theorem getCtrl_of_pending {s : UcSpi} {k : Nat} (left : s.pending = k + 1) :
    s.getCtrl = (s.ctrl ||| selected, { s with pending := k }) := by
  rw [getCtrl, left]

/-- `set32(RORC_REG_UC_SPI_CTRL, …)`. -/
def setCtrl (value : Word32) (s : UcSpi) : UcSpi := { s with ctrl := value }

end UcSpi

/-! ## The driver -/

/-- The `LIBRORC_UC_*` errors. -/
inductive UcError
  | spiNotImplemented
  | sendCmdTimeout
  | progModeFailed
  | fileError

/-- A call stops with an exception, or where it reads past the end of an array. -/
inductive UcStop
  | thrown (e : UcError)
  | outOfBounds

abbrev UcCall (α : Type) := Throwing UcStop UcSpi α

namespace Microcontroller

def configureSpi : UcCall Unit := do
  let ctrl ← modifyGet UcSpi.getCtrl
  if ctrl = 0xa5a5a5a5 then throw (.thrown .spiNotImplemented)
  else modify (·.setCtrl ucSpiPrescaler)

/-- Drives the reset, which is active low. -/
def setReset (rstval : Word32) : UcCall Unit := do
  let ucctrl ← modifyGet UcSpi.getCtrl
  if rstval ≠ 0 then modify (·.setCtrl (ucctrl &&& ~~~(1#32 <<< 30)))
  else modify (·.setCtrl (ucctrl ||| (1#32 <<< 30)))

/-- The loop of `send_command`. -/
def awaitDeselect (timeout : Nat) : UcCall Unit := do
  let ctrl ← modifyGet UcSpi.getCtrl
  if ctrl &&& UcSpi.selected ≠ 0 then
    match timeout with
    | 0 => throw (.thrown .sendCmdTimeout)
    | timeout + 1 => awaitDeselect timeout
  else pure ()

def sendCommand (cmd : Word32) : UcCall Word32 := do
  modify (·.setData cmd)
  awaitDeselect 10000
  let s ← get
  pure s.data

def enterProgMode : UcCall Unit := do
  let result ← sendCommand ucSpiProgEnable
  if result &&& 0xff00 ≠ 0x5300 then throw (.thrown .progModeFailed) else pure ()

def earseChip : UcCall Unit := do
  setReset 1
  enterProgMode
  let _ ← sendCommand ucSpiEraseChip
  setReset 0

def loadExtendedAddr (addr : Word32) : UcCall Unit := do
  let addr := addr &&& 0xff
  let _ ← sendCommand (ucSpiExtAddr ||| (addr <<< 8))

def loadMemPage (addr : Word32) (data : Word16) : UcCall Unit := do
  let data : Word32 := data.setWidth 32
  let _ ← sendCommand (ucSpiProgLow ||| (addr <<< 8) ||| (data &&& 0xff))
  let _ ← sendCommand (ucSpiProgHigh ||| (addr <<< 8) ||| ((data >>> 8) &&& 0xff))

def readMemPage (addr : Word32) : UcCall Word16 := do
  let low ← sendCommand (ucSpiReadLow ||| (addr <<< 8))
  let high ← sendCommand (ucSpiReadHigh ||| (addr <<< 8))
  let high : Word32 := (high &&& 0xff) <<< 8
  pure (((low &&& 0xff) ||| high).setWidth 16)

def progMemPage (addr : Word32) : UcCall Unit := do
  let _ ← sendCommand (ucSpiWritePage ||| (addr <<< 8))

end Microcontroller

/-! ## Sequences of commands -/

/-- Between `s` and `s'` the device got `cmds`, and the last one is over. -/
structure UcSpi.Received (s : UcSpi) (cmds : List Word32) (s' : UcSpi) : Prop where
  sent : s'.sent = s.sent ++ cmds
  device : s'.device = cmds.foldl SpiDevice.receive s.device
  idle : s'.pending = 0

theorem UcSpi.Received.trans {cmds cmds' : List Word32} {s s' s'' : UcSpi}
    (first : s.Received cmds s') (second : s'.Received cmds' s'') :
    s.Received (cmds ++ cmds') s'' where
  sent := by rw [second.sent, first.sent, List.append_assoc]
  device := by rw [second.device, first.device, List.foldl_append]
  idle := second.idle

namespace Microcontroller

/-- On an idle device the call returns, with `cmds` sent. -/
def Sends (m : UcCall Unit) (cmds : List Word32) : Prop :=
  ∀ s : UcSpi, s.pending = 0 → ∃ s', m.run.run s = (.ok (), s') ∧ s.Received cmds s'

theorem Sends.pure : Sends (Pure.pure ()) [] :=
  fun s idle => ⟨s, rfl, (List.append_nil _).symm, rfl, idle⟩

theorem Sends.andThen {m m' : UcCall Unit} {cmds cmds' : List Word32} (first : Sends m cmds)
    (second : Sends m' cmds') : Sends (m >>= fun _ => m') (cmds ++ cmds') := by
  intro s idle
  obtain ⟨s₁, run, received⟩ := first s idle
  obtain ⟨s₂, run', received'⟩ := second s₁ received.idle
  exact ⟨s₂, (run_bind_ok run).trans run', received.trans received'⟩

/-- The loop waits for as long as the command takes. -/
theorem awaitDeselect_run {timeout : Nat} {s : UcSpi} (inTime : s.pending ≤ timeout) :
    (awaitDeselect timeout).run.run s = (.ok (), { s with pending := 0 }) := by
  induction timeout generalizing s with
  | zero =>
      have idle : s.pending = 0 := Nat.le_zero.mp inTime
      have done := not_not_intro (UcSpi.and_selected_of_idle s.ctrl)
      rw [awaitDeselect, run_bind_ok (run_modifyGet _ _), UcSpi.getCtrl_of_idle idle, if_neg done,
        run_pure, ← idle]
  | succ timeout ih =>
      rw [awaitDeselect, run_bind_ok (run_modifyGet _ _)]
      cases left : s.pending with
      | zero =>
          have done := not_not_intro (UcSpi.and_selected_of_idle s.ctrl)
          rw [UcSpi.getCtrl_of_idle left, if_neg done, run_pure, ← left]
      | succ k =>
          have fewer : k ≤ timeout := by omega
          rw [UcSpi.getCtrl_of_pending left, if_pos (UcSpi.and_selected_of_busy s.ctrl)]
          exact ih fewer

theorem sendCommand_run (cmd : Word32) (s : UcSpi) :
    (sendCommand cmd).run.run s =
      (.ok (s.device.response cmd), { s.setData cmd with pending := 0 }) := by
  have inTime : (s.setData cmd).pending ≤ 10000 := s.latency_le s.sent.length
  unfold sendCommand
  rw [run_bind_ok (run_modify _ _), run_bind_ok (awaitDeselect_run inTime),
    run_bind_ok (run_get _), run_pure]
  rfl

/-- What follows may look at the response. -/
theorem Sends.sendCommand_bind {cmd : Word32} {rest : Word32 → UcCall Unit} {cmds : List Word32}
    (sends : ∀ d : SpiDevice, Sends (rest (d.response cmd)) cmds) :
    Sends (sendCommand cmd >>= rest) (cmd :: cmds) := by
  intro s _
  have first : s.Received [cmd] { s.setData cmd with pending := 0 } := ⟨rfl, rfl, rfl⟩
  obtain ⟨s', run, received⟩ := sends s.device _ first.idle
  exact ⟨s', (run_bind_ok (sendCommand_run cmd s)).trans run, first.trans received⟩

/-- Reading and writing the control register sends nothing. -/
theorem Sends.getCtrl_bind {change : Word32 → UcCall Unit}
    (sets : ∀ ctrl, ctrl &&& UcSpi.selected = 0 →
      ∃ value, change ctrl = modify (·.setCtrl value)) :
    Sends (modifyGet UcSpi.getCtrl >>= change) [] := by
  intro s idle
  obtain ⟨value, change⟩ := sets _ (UcSpi.and_selected_of_idle s.ctrl)
  refine ⟨s.setCtrl value, ?_, (List.append_nil _).symm, rfl, idle⟩
  rw [run_bind_ok (run_modifyGet _ _), UcSpi.getCtrl_of_idle idle, change, run_modify]

theorem sends_setReset (rstval : Word32) : Sends (setReset rstval) [] := by
  refine Sends.getCtrl_bind fun ucctrl _ => ?_
  by_cases asserted : rstval ≠ 0
  · exact ⟨_, if_pos asserted⟩
  · exact ⟨_, if_neg asserted⟩

/-- The pattern of a missing interface has bit 31 set. -/
theorem sends_configureSpi : Sends configureSpi [] := by
  refine Sends.getCtrl_bind fun ctrl idle => ⟨ucSpiPrescaler, if_neg ?_⟩
  rintro rfl
  exact absurd idle (by decide)

theorem sends_enterProgMode : Sends enterProgMode [ucSpiProgEnable] := by
  refine Sends.sendCommand_bind fun d => ?_
  have decoded : SpiCommand.decode ucSpiProgEnable = some .progEnable := by decide
  have echo : d.response ucSpiProgEnable = 0x00ac5300 := by
    unfold SpiDevice.response
    rw [decoded]
    show (ucSpiProgEnable >>> 16) <<< 8 ||| (0 : Word8).setWidth 32 = _
    decide
  rw [echo, if_neg (by decide)]
  exact Sends.pure

theorem sends_earseChip : Sends earseChip [ucSpiProgEnable, ucSpiEraseChip] :=
  (sends_setReset 1).andThen <| sends_enterProgMode.andThen <|
    Sends.sendCommand_bind fun _ => sends_setReset 0

theorem sends_loadExtendedAddr (addr : Word32) :
    Sends (loadExtendedAddr addr) [ucSpiExtAddr ||| ((addr &&& 0xff) <<< 8)] :=
  Sends.sendCommand_bind fun _ => Sends.pure

theorem sends_loadMemPage (addr : Word32) (data : Word16) :
    Sends (loadMemPage addr data)
      [ucSpiProgLow ||| (addr <<< 8) ||| (data.setWidth 32 &&& 0xff),
        ucSpiProgHigh ||| (addr <<< 8) ||| ((data.setWidth 32 >>> 8) &&& 0xff)] :=
  Sends.sendCommand_bind fun _ => Sends.sendCommand_bind fun _ => Sends.pure

theorem sends_progMemPage (addr : Word32) :
    Sends (progMemPage addr) [ucSpiWritePage ||| (addr <<< 8)] :=
  Sends.sendCommand_bind fun _ => Sends.pure

end Microcontroller

end Librorc
