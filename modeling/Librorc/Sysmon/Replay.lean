import Librorc.Dma.Device
import Mathlib.Logic.Function.Basic

/-!
# DDR3 data replay: events to RAM

`ddr3DataReplayEventToRam` chops an event in blocks of 15 words; each block goes
through the payload registers, behind a header with the mask of its words, its
flags and its channel. The device carries a block to the RAM of the selected
controller some time after the command; until then the registers must stay as
they are.
-/

namespace Librorc

def sysmonDrTimeout : Nat := 10000

def dataReplayEoe : Word32 := 1#32 <<< 8
def dataReplayEnd : Word32 := 1#32 <<< 9
def dataReplayDiuError : Word32 := 1#32 <<< 10

/-- Data words of a block, behind the header. -/
def replayDws : Nat := 15

/-! ## The device -/

/-- The replay unit: the payload registers, the RAM of each controller as
blocks by their address, the command last written, and the reads of the control
register that will still find it busy. `latency` is the time the `n`-th command
takes, in such reads. -/
structure ReplayDevice where
  payload : Nat → Word32
  ram : Nat → Word32 → Nat → Word32
  ctrl : Word32
  pending : Option Nat
  latency : Nat → Nat
  issued : Nat

namespace ReplayDevice

/-- Address and destination bits of the control register. -/
def ctrlAddr (ctrl : Word32) : Word32 := ctrl &&& 0x7ffffffc#32
def ctrlSelects (ctrl : Word32) (controller : Nat) : Bool :=
  controller < 2 && ctrl.getLsbD controller

/-- `memcopy` to `RORC_REG_DATA_REPLAY_PAYLOAD_BASE`. -/
def setPayload (d : ReplayDevice) (block : Nat → Word32) : ReplayDevice :=
  { d with payload := block }

/-- `set32(RORC_REG_DATA_REPLAY_CTRL, …)` starts a command. -/
def setCtrl (d : ReplayDevice) (ctrl : Word32) : ReplayDevice :=
  { d with ctrl := ctrl, pending := some (d.latency d.issued), issued := d.issued + 1 }

/-- The payload registers reach the RAM of the selected controllers. -/
def complete (d : ReplayDevice) : ReplayDevice :=
  { d with
    pending := none
    ram := fun controller addr =>
      if ctrlSelects d.ctrl controller && addr == ctrlAddr d.ctrl then d.payload
      else d.ram controller addr }

/-- `get32(RORC_REG_DATA_REPLAY_CTRL)`: no write done flag while the command is
under way, then those of the selected controllers. -/
def getCtrl (d : ReplayDevice) : Word32 × ReplayDevice :=
  match d.pending with
  | none => (d.ctrl &&& 3#32, d)
  | some 0 => (d.ctrl &&& 3#32, d.complete)
  | some (wait + 1) => (0#32, { d with pending := some wait })

end ReplayDevice

/-! ## Writing a block -/

/-- The exceptions of the data replay, and a read behind the event data, which
the source does not check. -/
inductive ReplayError
  | invalid
  | timeout
  | readBehindEvent
deriving DecidableEq

def controllerSelect (channel : Nat) : Nat := if 5 < channel then 1 else 0

def channelSelect (channel : Nat) : Word8 :=
  if 5 < channel then 1#8 <<< (channel - 6) else 1#8 <<< channel

def replayHeader (mask : Word16) (flags : Word32) (channel : Nat) : Word32 :=
  (mask.setWidth 32 <<< 16) ||| flags ||| (channelSelect channel).setWidth 32

/-- The `block_buffer` on the stack: words the mask does not select stay as
they were. -/
def blockBuffer (stack : Nat → Word32) (data : List Word32) (mask : Word16) (header : Word32) :
    Nat → Word32
  | 0 => header
  | i + 1 => if i < replayDws && mask.getLsbD i then data.getD i 0 else stack (i + 1)

/-- The loop `while( !(get32(CTRL) & write_done_flag) )`. -/
def waitWriteDone (writeDone : Word32) : Nat → ReplayDevice → Except ReplayError Unit × ReplayDevice
  | timeout, d =>
      let (status, d) := d.getCtrl
      if status &&& writeDone ≠ 0#32 then (.ok (), d)
      else
        match timeout with
        | 0 => (.error .timeout, d)
        | timeout + 1 => waitWriteDone writeDone timeout d

def ddr3DataReplayBlockToRam (startAddr : Word32) (data : List Word32) (mask : Word16)
    (channel : Nat) (flags : Word32) (stack : Nat → Word32) (d : ReplayDevice) :
    Except ReplayError Unit × ReplayDevice :=
  if 11 < channel then (.error .invalid, d)
  else if ∃ i < replayDws, mask.getLsbD i = true ∧ data.length ≤ i then (.error .readBehindEvent, d)
  else
    let d := d.setPayload (blockBuffer stack data mask (replayHeader mask flags channel))
    let d := d.setCtrl ((startAddr &&& 0x7ffffffc#32) ||| (1#32 <<< controllerSelect channel))
    waitWriteDone (1#32 <<< controllerSelect channel) sysmonDrTimeout d

/-! ## Writing events -/

/-- The flags of the block an event ends with. -/
def endFlags (flags : Word32) (lastEvent diuError : Bool) : Word32 :=
  let flags := flags ||| dataReplayEoe
  let flags := if diuError then flags ||| dataReplayDiuError else flags
  if lastEvent then flags ||| dataReplayEnd else flags

/-- The loop of `ddr3DataReplayEventToRam`; `data` is what `dataptr` points
to. -/
def replayLoop (channel : Nat) (lastEvent diuError : Bool) (stack : Word32 → Nat → Word32)
    (data : List Word32) (numDws : Nat) (addr : Word32) (mask : Word16) (flags : Word32)
    (d : ReplayDevice) : Except ReplayError Word32 × ReplayDevice :=
  if numDws = 0 then (.ok addr, d)
  else
    let mask := if numDws ≤ 15 then (1#16 <<< numDws) - 1 else mask
    let flags := if numDws ≤ 15 then endFlags flags lastEvent diuError else flags
    match ddr3DataReplayBlockToRam addr data mask channel flags (stack addr) d with
    | (.error e, d) => (.error e, d)
    | (.ok (), d) =>
        replayLoop channel lastEvent diuError stack (data.drop 15)
          (if numDws < 15 then 0 else numDws - 15) (addr + 8) mask flags d
termination_by numDws
decreasing_by
  split <;> omega

def ddr3DataReplayEventToRam (eventData : List Word32) (numDws : Nat) (ddr3StartAddr : Word32)
    (channel : Nat) (lastEvent diuError : Bool) (stack : Word32 → Nat → Word32)
    (d : ReplayDevice) : Except ReplayError Word32 × ReplayDevice :=
  replayLoop channel lastEvent diuError stack eventData numDws ddr3StartAddr 0x7fff 0 d

/-- An event to be replayed. -/
structure ReplayEvent where
  data : List Word32
  diuError : Bool

/-- Events one after the other, each from the address the previous call
returned; the addresses returned. -/
def writeEvents (channel : Nat) (stack : Word32 → Nat → Word32) :
    List ReplayEvent → Word32 → ReplayDevice → Except ReplayError (List Word32) × ReplayDevice
  | [], _, d => (.ok [], d)
  | event :: rest, addr, d =>
      match ddr3DataReplayEventToRam event.data event.data.length addr channel rest.isEmpty
        event.diuError stack d with
      | (.error e, d) => (.error e, d)
      | (.ok next, d) =>
          match writeEvents channel stack rest next d with
          | (.error e, d) => (.error e, d)
          | (.ok later, d) => (.ok (next :: later), d)

/-! ## Reading them back -/

/-- The data words the header of a block selects. -/
def selectedDws (block : Nat → Word32) : List Word32 :=
  (List.range replayDws).filterMap fun i =>
    if (block 0 >>> 16).getLsbD i then some (block (i + 1)) else none

/-- Read block by block, collecting the words of the current event in `front`;
`none` when the end is not found within `fuel` blocks. -/
def replayDecode (ram : Word32 → Nat → Word32) : Nat → Word32 → List Word32 →
    Option (List (List Word32))
  | 0, _, _ => none
  | fuel + 1, addr, front =>
      let header := ram addr 0
      let front := front ++ selectedDws (ram addr)
      let closed := if header &&& dataReplayEoe ≠ 0#32 then [front] else []
      if header &&& dataReplayEnd ≠ 0#32 then some closed
      else
        let front := if header &&& dataReplayEoe ≠ 0#32 then [] else front
        (replayDecode ram fuel (addr + 8) front).map (closed ++ ·)

end Librorc
