import Librorc.Link.DdlCtrl
import Librorc.Lib.RegFile

/-!
# `gtx`, the transceiver of a link

Its accessors work on GTX_ASYNC_CFG in the PCI file of the link and on the
registers of the GTX file. They run on any device behind the BAR;
`Bar.storage` is the one that keeps what is written.
-/

namespace Librorc

open Librorc.Lib

/-- What answers behind a BAR. -/
structure BarDevice (σ : Type) where
  get32 : Word64 → σ → Word32 × σ
  set32 : Word64 → Word32 → σ → σ

def Bar.storage : BarDevice Bar := ⟨Bar.get32, Bar.set32⟩

/-- `RORC_REGFILE_GTX_SEL`. -/
def regfileGtxSel : Nat := 13

namespace Reg

def gtxAsyncCfg : Word32 := 21
def gtxCtrl : Word32 := 0
def gtxRxdfe : Word32 := 1
def gtxDisperrRealignCnt : Word32 := 2
def gtxRxnitRxlosCnt : Word32 := 3
def gtxErrorCnt : Word32 := 4

end Reg

/-! ## Registers of the link -/

namespace Link

variable {σ : Type} (l : Link) (dev : BarDevice σ)

def pciAddr (addr : Word32) : Word64 := (l.base + addr).setWidth 64

def gtxAddr (addr : Word32) : Word64 := (l.base + (1#32 <<< regfileGtxSel) + addr).setWidth 64

def pciReg (addr : Word32) : σ → Word32 × σ := dev.get32 (l.pciAddr addr)

def setPciReg (addr data : Word32) : σ → σ := dev.set32 (l.pciAddr addr) data

def gtxReg (addr : Word32) : σ → Word32 × σ := dev.get32 (l.gtxAddr addr)

def setGtxReg (addr data : Word32) : σ → σ := dev.set32 (l.gtxAddr addr) data

@[simp] theorem gtxReg_storage_fst (addr : Word32) (b : Bar) :
    (l.gtxReg Bar.storage addr b).1 = b.words (l.gtxAddr addr) := rfl

@[simp] theorem gtxReg_storage_words (addr : Word32) (b : Bar) :
    (l.gtxReg Bar.storage addr b).2.words = b.words := rfl

@[simp] theorem setGtxReg_storage_words (addr data : Word32) (b : Bar) :
    (l.setGtxReg Bar.storage addr data b).words =
      Function.update b.words (l.gtxAddr addr) data := rfl

def isGtxDomainReady (s : σ) : Bool × σ :=
  let (gtxasynccfg, s) := l.pciReg dev Reg.gtxAsyncCfg s
  let stsmask : Word32 := (1 <<< 0) ||| -- GTX reset
    (1 <<< 1) ||| -- RX reset
    (1 <<< 2) ||| -- RX reset done
    (1 <<< 3) ||| -- TX reset
    (1 <<< 4) ||| -- TX reset done
    (1 <<< 5) ||| -- RX PLL locked
    (1 <<< 8) -- GTX RX clock in reset
  let expectedValue : Word32 := (1 <<< 2) ||| (1 <<< 4) ||| (1 <<< 5)
  (gtxasynccfg &&& stsmask == expectedValue, s)

def isGtxLinkUp (s : σ) : Bool × σ :=
  let (gtxsyncsts, s) := l.gtxReg dev Reg.gtxCtrl s
  let stsmask : Word32 := (1 <<< 0) ||| -- PHY ready
    (1 <<< 1) ||| -- PHY enabled
    (1 <<< 5) ||| -- byte aligned
    (1 <<< 6) ||| -- loss of sync
    (1 <<< 9) ||| -- rxbufstatus[2]
    (1 <<< 11) -- txbufstatus[1]
  let expectedValue : Word32 := (1 <<< 0) ||| (1 <<< 1) ||| (1 <<< 5)
  (gtxsyncsts &&& stsmask == expectedValue, s)

end Link

/-! ## The accessors -/

namespace Gtx

variable {σ : Type} (l : Link) (dev : BarDevice σ)

def gtxAsynccfgReset : Nat := 0
def gtxAsynccfgRxreset : Nat := 1
def gtxAsynccfgTxreset : Nat := 3

/-- Shift and mask GTX_ASYNC_CFG. -/
def getAsyncCfg (low : Nat) (mask : Word32) (s : σ) : Word32 × σ :=
  let (asynccfg, s) := l.pciReg dev Reg.gtxAsyncCfg s
  ((asynccfg >>> low) &&& mask, s)

/-- Read GTX_ASYNC_CFG, change it, write it back. -/
def updateAsyncCfg (change : Word32 → Word32) (s : σ) : σ :=
  let (asynccfg, s) := l.pciReg dev Reg.gtxAsyncCfg s
  l.setPciReg dev Reg.gtxAsyncCfg (change asynccfg) s

def getTxDiffCtrl : σ → Word32 × σ := getAsyncCfg l dev 16 0xf

def getTxPreEmph : σ → Word32 × σ := getAsyncCfg l dev 20 0xf

def getTxPostEmph : σ → Word32 × σ := getAsyncCfg l dev 24 0x1f

def getRxEqMix : σ → Word32 × σ := getAsyncCfg l dev 29 0x7

def getLoopback : σ → Word32 × σ := getAsyncCfg l dev 9 0x7

/-- As {TX, RX, GTX}. -/
def getReset (s : σ) : Word32 × σ :=
  let (asynccfg, s) := l.pciReg dev Reg.gtxAsyncCfg s
  (((asynccfg >>> gtxAsynccfgReset) &&& 1) |||
    (((asynccfg >>> gtxAsynccfgRxreset) &&& 1) <<< 1) |||
    (((asynccfg >>> gtxAsynccfgTxreset) &&& 1) <<< 2), s)

def setTxDiffCtrl (value : Word32) : σ → σ := updateAsyncCfg l dev (Link.putMasked 16 0xf value)

def setTxPreEmph (value : Word32) : σ → σ := updateAsyncCfg l dev (Link.putMasked 20 0xf value)

/-- One bit less than the getter reads. -/
def setTxPostEmph (value : Word32) : σ → σ := updateAsyncCfg l dev (Link.putMasked 24 0xf value)

def setRxEqMix (value : Word32) : σ → σ := updateAsyncCfg l dev (Link.putMasked 29 0x7 value)

def setLoopback (value : Word32) : σ → σ := updateAsyncCfg l dev (Link.putMasked 9 0x7 value)

def setReset (value : Word32) : σ → σ :=
  updateAsyncCfg l dev fun asynccfg =>
    let asynccfg := asynccfg &&& ~~~((1#32 <<< gtxAsynccfgReset) |||
      (1#32 <<< gtxAsynccfgRxreset) ||| (1#32 <<< gtxAsynccfgTxreset))
    let asynccfg := asynccfg ||| ((value &&& 1) <<< gtxAsynccfgReset)
    let asynccfg := asynccfg ||| (((value >>> 1) &&& 1) <<< gtxAsynccfgRxreset)
    asynccfg ||| (((value >>> 2) &&& 1) <<< gtxAsynccfgTxreset)

def getRxReset : σ → Word32 × σ := getAsyncCfg l dev gtxAsynccfgRxreset 1

def getTxReset : σ → Word32 × σ := getAsyncCfg l dev gtxAsynccfgTxreset 1

def setRxReset (value : Word32) : σ → σ :=
  updateAsyncCfg l dev (Link.putMasked gtxAsynccfgRxreset 1 value)

def setTxReset (value : Word32) : σ → σ :=
  updateAsyncCfg l dev (Link.putMasked gtxAsynccfgTxreset 1 value)

def isLinkUp : σ → Bool × σ := l.isGtxLinkUp dev

def clearErrorCounters (s : σ) : σ :=
  let s := l.setGtxReg dev Reg.gtxDisperrRealignCnt 0 s
  let s := l.setGtxReg dev Reg.gtxRxnitRxlosCnt 0 s
  l.setGtxReg dev Reg.gtxErrorCnt 0 s

def dfeTapOverride (s : σ) : Bool × σ :=
  let (value, s) := l.gtxReg dev Reg.gtxCtrl s
  ((value >>> 4) &&& 1 == 1, s)

/-- The new bit is taken from the register, not from `ovrd`. -/
def setDfeTapOverride (_ovrd : Word32) (s : σ) : σ :=
  let (value, s) := l.gtxReg dev Reg.gtxCtrl s
  let value := value &&& ~~~(1#32 <<< 4)
  l.setGtxReg dev Reg.gtxCtrl (value ||| ((value &&& 1) <<< 4)) s

end Gtx

end Librorc
