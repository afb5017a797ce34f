import Librorc.Dma.Device
import Librorc.Lib.Poll

/-!
# DIU commands

A command method clears a status word register, sends a command word and polls
a status word register. The remote units post status words whenever they like:
`remote n` lists the posts that arrive before bus access number `n`.
-/

namespace Librorc

open Librorc.Lib

/-- `RORC_REG_DDL_FESTW` and its siblings. -/
inductive StatusReg
  | festw
  | ctstw
  | dtstw
  | ifstw
deriving DecidableEq

/-- What a cleared register holds, and a timeout returns. -/
def noStatusWord : Word32 := 0xffffffff

/-- A status register. The flag records, for the specification, that the word
was posted after the last command. -/
structure StatusWord where
  word : Word32
  sinceCommand : Bool
deriving DecidableEq

/-- A status word a remote unit posts. -/
structure Post where
  reg : StatusReg
  word : Word32

/-- The part of a DDL channel the command methods touch. -/
structure Diu where
  status : StatusReg → StatusWord
  /-- `RORC_REG_DDL_CMD` -/
  command : Word32
  /-- The number of bus accesses so far. -/
  clock : Nat

/-- `LIBRORC_DIU_TIMEOUT`. -/
def diuTimeout : Nat := 10000

/-! The command words `LIBRORC_DIUCMD_*`. -/

def diucmdDiuRcifstw : Word32 := 0x00000001
def diucmdSiuRcifstw : Word32 := 0x00000002
def diucmdSiuEobtr : Word32 := 0x000000b4
def diucmdSiuRdyrx : Word32 := 0x00000014
def diucmdDiuDiurst : Word32 := 0x000000a1
def diucmdSiuRst : Word32 := 0x000000f1
def diucmdDiuDiuinit : Word32 := 0x000000b1
def diucmdRemoteHwvers : Word32 := 0x00000062

/-- What a command method returns, with the status register it was derived
from. -/
structure DiuReport where
  result : Word32
  status : StatusWord

namespace Diu

variable (remote : Nat → List Post) (s : Diu)

/-- A post arrives. -/
def post (status : StatusReg → StatusWord) (p : Post) : StatusReg → StatusWord :=
  Function.update status p.reg ⟨p.word, true⟩

/-- The posts that arrive before the next bus access. -/
def arrive : Diu :=
  { s with status := (remote s.clock).foldl post s.status, clock := s.clock + 1 }

/-- `ddlReg` of a status register. -/
def ddlReg (r : StatusReg) : StatusWord × Diu :=
  ((s.arrive remote).status r, s.arrive remote)

/-- Writing a status register clears it. -/
def clearStatusWord (r : StatusReg) : Diu :=
  { s.arrive remote with
    status := Function.update (s.arrive remote).status r ⟨noStatusWord, false⟩ }

def clearLastFrontEndStatusWord : Diu := s.clearStatusWord remote .festw

def clearLastCommandTransmissionStatusWord : Diu := s.clearStatusWord remote .ctstw

def clearLastDataTransmissionStatusWord : Diu := s.clearStatusWord remote .dtstw

def clearLastInterfaceStatusWord : Diu := s.clearStatusWord remote .ifstw

def clearAllLastStatusWords : Diu :=
  let s := s.clearLastFrontEndStatusWord remote
  let s := s.clearLastCommandTransmissionStatusWord remote
  let s := s.clearLastDataTransmissionStatusWord remote
  s.clearLastInterfaceStatusWord remote

/-- From here on every word in a register is one from before the command. -/
def sendCommand (command : Word32) : Diu :=
  { s.arrive remote with
    status := fun r => { (s.arrive remote).status r with sinceCommand := false }
    command := command }

/-- The loop looks at the word before the budget, so the word read last is
returned in either case. -/
def waitForStatusWord (r : StatusReg) : StatusWord × Diu :=
  match poll (fun s => s.ddlReg remote r) (fun status => status.word == noStatusWord)
    diuTimeout s with
  | .ready status s | .timeout status s => (status, s)

/-- The `int` is returned as `uint32_t` by some of the callers. -/
def waitForCommandTransmissionStatusWord : DiuReport × Diu :=
  let (status, s) := s.waitForStatusWord remote .ctstw
  (⟨if status.word = noStatusWord then BitVec.ofInt 32 (-1) else 0, status⟩, s)

def waitForInterfaceStatusWord : DiuReport × Diu :=
  let (status, s) := s.waitForStatusWord remote .ifstw
  (⟨status.word, status⟩, s)

def waitForFrontEndStatusWord : DiuReport × Diu :=
  let (status, s) := s.waitForStatusWord remote .festw
  (⟨status.word, status⟩, s)

/-- Clear a register, send a command, wait. -/
def exchange (clears : StatusReg) (command : Word32) (wait : Diu → DiuReport × Diu) :
    DiuReport × Diu :=
  wait ((s.clearStatusWord remote clears).sendCommand remote command)

def sendFeeEndOfBlockTransferCmd : DiuReport × Diu :=
  s.exchange remote .ctstw diucmdSiuEobtr (waitForCommandTransmissionStatusWord remote)

def sendFeeReadyToReceiveCmd : DiuReport × Diu :=
  s.exchange remote .ctstw diucmdSiuRdyrx (waitForCommandTransmissionStatusWord remote)

def readAndClearDiuInterfaceStatus : DiuReport × Diu :=
  s.exchange remote .ifstw diucmdDiuRcifstw (waitForInterfaceStatusWord remote)

def readAndClearSiuInterfaceStatus : DiuReport × Diu :=
  s.exchange remote .ifstw diucmdSiuRcifstw (waitForInterfaceStatusWord remote)

/-- Clears one register and polls another. -/
def sendSiuResetCmd : DiuReport × Diu :=
  s.exchange remote .ifstw diucmdSiuRst (waitForCommandTransmissionStatusWord remote)

def sendDiuLinkInitializationCmd : DiuReport × Diu :=
  s.exchange remote .ifstw diucmdDiuDiuinit (waitForInterfaceStatusWord remote)

def sendDiuLinkResetCmd : DiuReport × Diu :=
  s.exchange remote .ifstw diucmdDiuDiurst (waitForInterfaceStatusWord remote)

def readRemoteHwVersion (addr : BitVec 8) : DiuReport × Diu :=
  s.exchange remote .festw (diucmdRemoteHwvers ||| (addr.setWidth 32 <<< 12))
    (waitForFrontEndStatusWord remote)

end Diu

/-- The command methods. -/
inductive DiuCommand
  | sendFeeEndOfBlockTransferCmd
  | sendFeeReadyToReceiveCmd
  | readAndClearDiuInterfaceStatus
  | readAndClearSiuInterfaceStatus
  | sendSiuResetCmd
  | sendDiuLinkInitializationCmd
  | sendDiuLinkResetCmd
  | readRemoteHwVersion (addr : BitVec 8)
deriving DecidableEq

namespace DiuCommand

def call (remote : Nat → List Post) (s : Diu) : DiuCommand → DiuReport × Diu
  | .sendFeeEndOfBlockTransferCmd => s.sendFeeEndOfBlockTransferCmd remote
  | .sendFeeReadyToReceiveCmd => s.sendFeeReadyToReceiveCmd remote
  | .readAndClearDiuInterfaceStatus => s.readAndClearDiuInterfaceStatus remote
  | .readAndClearSiuInterfaceStatus => s.readAndClearSiuInterfaceStatus remote
  | .sendSiuResetCmd => s.sendSiuResetCmd remote
  | .sendDiuLinkInitializationCmd => s.sendDiuLinkInitializationCmd remote
  | .sendDiuLinkResetCmd => s.sendDiuLinkResetCmd remote
  | .readRemoteHwVersion addr => s.readRemoteHwVersion remote addr

/-- The reports of a sequence of commands. -/
def reports (remote : Nat → List Post) : Diu → List DiuCommand → List DiuReport
  | _, [] => []
  | s, c :: rest => (c.call remote s).1 :: reports remote (c.call remote s).2 rest

end DiuCommand
end Librorc
