import Librorc.Dma.Buffer

/-!
# `librorc::dma_channel`

The channel object is the device window it drives plus the members it caches.
`m_pci_tag` is assigned once, in the constructor, from the link number. Every
method is a function on the object; a read of `DMA_CTRL` sees what the device
holds at that moment.
-/

namespace Librorc

/-- The `DMACTRL_*_BIT` numbers. -/
def dmactrlEnableBit : Nat := 0
def dmactrlFifoResetBit : Nat := 1
def dmactrlEbdmEnableBit : Nat := 2
def dmactrlRbdmEnableBit : Nat := 3
def dmactrlSuspendBit : Nat := 10
def dmactrlSyncSwrdptrsBit : Nat := 31

def dmaChannelTimeout : Nat := 10000

/-- The `errno` values `configure` returns. -/
def enodev : Int := 19
def efbig : Int := 27

inductive EventStreamDirection
  | toHost
  | toDevice
deriving DecidableEq

structure DmaChannel where
  device : ChannelDevice
  linkNumber : Word32
  lastEbdmOffset : Word64
  lastRbdmOffset : Word64
  outFifoDepth : Word32

namespace DmaChannel

/-- `m_pci_tag`: the channel ID as PCIe tag. -/
def pciTag (ch : DmaChannel) : Word32 := ch.linkNumber <<< 16

/-! ## Register access -/

def pciReg (ch : DmaChannel) (addr : Nat) : Word32 := ch.device.reg addr

def setPciReg (ch : DmaChannel) (addr : Nat) (data : Word32) : DmaChannel :=
  { ch with device := ch.device.setPciReg addr data }

def memcopy (ch : DmaChannel) (target : Nat) (words : List Word32) : DmaChannel :=
  { ch with device := ch.device.memcopy target words }

/-- `DMAConfig` and `setDMAConfig`. -/
def dmaConfig (ch : DmaChannel) : Word32 := ch.pciReg Reg.dmaCtrl

def setDmaConfig (ch : DmaChannel) (config : Word32) : DmaChannel :=
  ch.setPciReg Reg.dmaCtrl config

/-- `x & 0xffffffff` and `x >> 32` of a 64-bit value. -/
def lowWord (x : Word64) : Word32 := x.setWidth 32
def highWord (x : Word64) : Word32 := (x >>> 32).setWidth 32

/-! ## Run state -/

def enable (ch : DmaChannel) : DmaChannel :=
  ch.setDmaConfig (ch.dmaConfig ||| ((1#32 <<< dmactrlEbdmEnableBit) |||
    (1#32 <<< dmactrlRbdmEnableBit) ||| (1#32 <<< dmactrlEnableBit)))

def getEnable (ch : DmaChannel) : Word32 := (ch.dmaConfig >>> dmactrlEnableBit) &&& 1

def setSuspend (ch : DmaChannel) (value : Word32) : DmaChannel :=
  ch.setDmaConfig ((ch.dmaConfig &&& ~~~(1#32 <<< dmactrlSuspendBit)) |||
    ((value &&& 1) <<< dmactrlSuspendBit))

def getSuspend (ch : DmaChannel) : Word32 := (ch.dmaConfig >>> dmactrlSuspendBit) &&& 1

/-- The polling loop of `disable`: `busy k` is the busy flag the device shows
at the `k`-th poll. Returns what is left of the timeout. -/
def pollBusy (busy : Nat → Bool) : Nat → Nat → Nat
  | 0, _ => 0
  | timeout + 1, k => if busy k then pollBusy busy timeout (k + 1) else timeout + 1

/-- `disable`, with the device's busy flags as a parameter. -/
def disable (ch : DmaChannel) (busy : Nat → Bool) : Int × DmaChannel :=
  -- suspend the transfer only if active
  let (timeout, ch') :=
    if ch.getEnable ≠ 0 then (pollBusy busy dmaChannelTimeout 0, ch.setSuspend 1)
    else (dmaChannelTimeout, ch)
  -- reset the FIFO; engine, suspend and both descriptor managers off
  (if timeout ≠ 0 then 0 else -1, ch'.setDmaConfig (1#32 <<< dmactrlFifoResetBit))

def setEbdmEnable (ch : DmaChannel) (enable : Word32) : DmaChannel :=
  ch.setDmaConfig ((ch.dmaConfig &&& ~~~(1#32 <<< dmactrlEbdmEnableBit)) |||
    ((enable &&& 1) <<< dmactrlEbdmEnableBit))

def setRbdmEnable (ch : DmaChannel) (enable : Word32) : DmaChannel :=
  ch.setDmaConfig ((ch.dmaConfig &&& ~~~(1#32 <<< dmactrlRbdmEnableBit)) |||
    ((enable &&& 1) <<< dmactrlRbdmEnableBit))

def readAndClearPtrStallFlags (ch : DmaChannel) : Word32 × DmaChannel :=
  let stallflags := (ch.dmaConfig >>> 11) &&& 3
  if stallflags ≠ 0 then (stallflags, ch.setDmaConfig (ch.dmaConfig ||| (3#32 <<< 11)))
  else (stallflags, ch)

def clearFifoUnderrunFlag (ch : DmaChannel) : DmaChannel :=
  ch.setDmaConfig (ch.dmaConfig ||| (1#32 <<< 13))

/-! ## Read pointers -/

/-- The control word `setBufferOffsetsOnDevice` composes. -/
def publishWord (ch : DmaChannel) : Word32 :=
  (1#32 <<< dmactrlSyncSwrdptrsBit) ||| ch.pciTag ||| (1#32 <<< dmactrlEbdmEnableBit) |||
    (1#32 <<< dmactrlRbdmEnableBit) ||| (1#32 <<< dmactrlEnableBit)

def setBufferOffsetsOnDevice (ch : DmaChannel) (eboffset rboffset : Word64) : DmaChannel :=
  { (ch.memcopy Reg.ebdmSwReadPointerL
      [lowWord eboffset, highWord eboffset, lowWord rboffset, highWord rboffset]).setDmaConfig
        ch.publishWord with
    lastEbdmOffset := eboffset
    lastRbdmOffset := rboffset }

def setEBOffset (ch : DmaChannel) (offset : Word64) : DmaChannel :=
  let ch' := ch.memcopy Reg.ebdmSwReadPointerL [lowWord offset, highWord offset]
  { ch'.setDmaConfig (ch'.dmaConfig ||| (1#32 <<< dmactrlSyncSwrdptrsBit)) with
    lastEbdmOffset := offset }

def setRBOffset (ch : DmaChannel) (offset : Word64) : DmaChannel :=
  let ch' := ch.memcopy Reg.rbdmSwReadPointerL [lowWord offset, highWord offset]
  { ch'.setDmaConfig (ch'.dmaConfig ||| (1#32 <<< dmactrlSyncSwrdptrsBit)) with
    lastRbdmOffset := offset }

def getEBOffset (ch : DmaChannel) : Word64 :=
  ((ch.pciReg Reg.ebdmSwReadPointerH).setWidth 64 <<< 32) +
    (ch.pciReg Reg.ebdmSwReadPointerL).setWidth 64

def getRBOffset (ch : DmaChannel) : Word64 :=
  ((ch.pciReg Reg.rbdmSwReadPointerH).setWidth 64 <<< 32) +
    (ch.pciReg Reg.rbdmSwReadPointerL).setWidth 64

/-- The pointers last written, as the object remembers them. -/
def getLastEBOffset (ch : DmaChannel) : Word64 := ch.lastEbdmOffset

def getLastRBOffset (ch : DmaChannel) : Word64 := ch.lastRbdmOffset

def getEBSize (ch : DmaChannel) : Word64 :=
  ((ch.pciReg Reg.ebdmBufferSizeH).setWidth 64 <<< 32) +
    (ch.pciReg Reg.ebdmBufferSizeL).setWidth 64

def getRBSize (ch : DmaChannel) : Word64 :=
  ((ch.pciReg Reg.rbdmBufferSizeH).setWidth 64 <<< 32) +
    (ch.pciReg Reg.rbdmBufferSizeL).setWidth 64

/-! ## Scatter-gather entries -/

def getEBDMNumberOfSgEntries (ch : DmaChannel) : Word32 :=
  ch.pciReg Reg.ebdmNSgConfig &&& 0x0000ffff

def getEBDMMaxSgEntries (ch : DmaChannel) : Word32 := ch.pciReg Reg.ebdmNSgConfig >>> 16

def getRBDMNumberOfSgEntries (ch : DmaChannel) : Word32 :=
  ch.pciReg Reg.rbdmNSgConfig &&& 0x0000ffff

def getRBDMMaxSgEntries (ch : DmaChannel) : Word32 := ch.pciReg Reg.rbdmNSgConfig >>> 16

def readOutFifoDepth (ch : DmaChannel) : Word32 :=
  (ch.pciReg Reg.ebdmNSgConfig >>> 16) &&& 0xffff

/-- `pushSglistEntryToRAM`. The write of `SGENTRY_CTRL` comes last and alone. -/
def pushSglistEntryToRAM (ch : DmaChannel) (sgAddr : Word64) (sgLen ctrl : Word32) : DmaChannel :=
  (ch.memcopy Reg.sgentryAddrLow [lowWord sgAddr, highWord sgAddr, sgLen]).setPciReg
    Reg.sgentryCtrl ctrl

/-- The HLT-OUT descriptor FIFO: the last entry of the event carries the
end-of-event flag. The 64-bit length is converted to the 32-bit parameter. -/
def announceEvent (ch : DmaChannel) : List ScatterGatherEntry → DmaChannel
  | [] => ch
  | e :: rest =>
      let ctrl := sgctrlWriteEnable ||| sgctrlTargetEbdmRam
      let ctrl := if rest = [] then ctrl ||| sgctrlEoeFlag else ctrl
      (ch.pushSglistEntryToRAM e.pointer (lowWord e.length) ctrl).announceEvent rest

/-- The splitting loop of `prepareSgList` on one segment. Every turn takes at
least 2 GiB, so `remSize` turns are enough. -/
def splitSegment (page : PageSize) : Nat → Word64 → Word64 → List ScatterGatherEntry
  | 0, curOffset, remSize => [⟨curOffset, remSize⟩]
  | fuel + 1, curOffset, remSize =>
      if remSize >>> 32 ≠ 0 then
        let length := (1#64 <<< 32) - page.word
        ⟨curOffset, length⟩ ::
          splitSegment page fuel (curOffset + length) (remSize - length)
      else [⟨curOffset, remSize⟩]

def prepareSgList (page : PageSize) (list : List ScatterGatherEntry) :
    List ScatterGatherEntry :=
  list.flatMap fun e => splitSegment page e.length.toNat e.pointer e.length

/-- Control word for RAM address `entryAddr` of the target RAM. -/
def ramCtrl (targetRam : Bool) (entryAddr : Word32) : Word32 :=
  sgctrlWriteEnable ||| entryAddr |||
    (if targetRam then sgctrlTargetRbdmRam else sgctrlTargetEbdmRam)

/-- The writing loop of `configureBufferDescriptorRam`, terminating entry
included. -/
def writeDescriptors (targetRam : Bool) (ch : DmaChannel) (entryAddr : Word32) :
    List ScatterGatherEntry → DmaChannel
  | [] => ch.pushSglistEntryToRAM 0 0 (ramCtrl targetRam entryAddr)
  | e :: rest =>
      writeDescriptors targetRam
        (ch.pushSglistEntryToRAM e.pointer (lowWord e.length) (ramCtrl targetRam entryAddr))
        (entryAddr + 1) rest

/-- `targetRam` is false for the event buffer and true for the report
buffer. -/
def configureBufferDescriptorRam (page : PageSize) (ch : DmaChannel) (buf : Buffer)
    (targetRam : Bool) : Int × DmaChannel × Buffer :=
  let maxNumSg := if targetRam then ch.getRBDMMaxSgEntries else ch.getEBDMMaxSgEntries
  let (list, buf') := buf.sgList
  let sglist := prepareSgList page list
  if maxNumSg.toNat ≤ sglist.length then (efbig, ch, buf')
  else (0, writeDescriptors targetRam ch 0 sglist, buf')

/-! ## Configuration -/

def setPciePacketSize (ch : DmaChannel) (packetSize : Word32) : DmaChannel :=
  ch.setPciReg Reg.dmaPktSize ((packetSize >>> 2) &&& 0x3ff)

/-- The register as it is; `setPciePacketSize` has put DWs there. -/
def pciePacketSize (ch : DmaChannel) : Word32 := ch.pciReg Reg.dmaPktSize

/-- `sizeof(EventDescriptor)`. -/
def sizeofEventDescriptor : Nat := 32

def configureDmaChannelRegisters (ch : DmaChannel) (eventBuffer reportBuffer : Buffer)
    (pciePacketSize : Word32) : DmaChannel × Buffer × Buffer :=
  let ebSize := eventBuffer.getPhysicalSize
  let rbSize := reportBuffer.getPhysicalSize
  let ebrdptr := ebSize - pciePacketSize.setWidth 64
  let rbrdptr := rbSize - BitVec.ofNat 64 sizeofEventDescriptor
  let (ebCount, eventBuffer') := eventBuffer.getnSGEntries
  let (rbCount, reportBuffer') := reportBuffer.getnSGEntries
  let dmaCtrl := (1#32 <<< dmactrlSyncSwrdptrsBit) ||| ch.pciTag
  let ch := ch.memcopy Reg.ebdmNSgConfig
    [BitVec.ofNat 32 ebCount, lowWord ebSize, highWord ebSize,
      BitVec.ofNat 32 rbCount, lowWord rbSize, highWord rbSize,
      lowWord ebrdptr, highWord ebrdptr, lowWord rbrdptr, highWord rbrdptr]
  let ch := (ch.setDmaConfig dmaCtrl).setPciePacketSize pciePacketSize
  ({ ch with lastRbdmOffset := rbrdptr, lastEbdmOffset := ebrdptr },
    eventBuffer', reportBuffer')

/-- `configure`; a null buffer is `none`. -/
def configure (page : PageSize) (ch : DmaChannel) (eventBuffer reportBuffer : Option Buffer)
    (esDir : EventStreamDirection) (pciePacketSize : Word32) : Int × DmaChannel :=
  match eventBuffer, reportBuffer with
  | some eb, some rb =>
      let (result, ch, eb) :=
        match esDir with
        | .toHost => ch.configureBufferDescriptorRam page eb false
        | .toDevice => (0, { ch with outFifoDepth := ch.readOutFifoDepth }, eb)
      if result ≠ 0 then (result, ch)
      else
        let (result, ch, rb) := ch.configureBufferDescriptorRam page rb true
        if result ≠ 0 then (result, ch)
        else (0, (ch.configureDmaChannelRegisters eb rb pciePacketSize).1)
  | _, _ => (enodev, ch)

/-! ## One push

Every entry reaches the device through `pushSglistEntryToRAM`: it leaves the
`SGENTRY` registers behind and stores one entry; nothing else moves. -/

theorem highWord_append_lowWord (x : Word64) : highWord x ++ lowWord x = x := by
  apply BitVec.eq_of_getLsbD_eq
  intro i hi
  refine (BitVec.getLsbD_append (x := highWord x) (y := lowWord x)).trans ?_
  by_cases low : i < 32
  · simp [lowWord, low]
  · simp [highWord, low, show i - 32 < 32 by omega, show 32 + (i - 32) = i by omega]

/-- Lengths below 2^32 survive the conversion to the 32-bit parameter. -/
theorem lowWord_toNat {x : Word64} (small : x.toNat < 2 ^ 32) : (lowWord x).toNat = x.toNat := by
  rw [lowWord, BitVec.toNat_setWidth]
  exact Nat.mod_eq_of_lt small

/-- The registers outside the `SGENTRY` block agree, with the members that
mirror them. -/
structure SgFrame (ch ch' : DmaChannel) : Prop where
  reg : ∀ addr, addr < Reg.sgentryAddrLow → ch'.device.reg addr = ch.device.reg addr
  pktSize : ch'.device.reg Reg.dmaPktSize = ch.device.reg Reg.dmaPktSize
  linkNumber : ch'.linkNumber = ch.linkNumber
  lastEbdmOffset : ch'.lastEbdmOffset = ch.lastEbdmOffset
  lastRbdmOffset : ch'.lastRbdmOffset = ch.lastRbdmOffset

theorem SgFrame.refl (ch : DmaChannel) : SgFrame ch ch :=
  ⟨fun _ _ => rfl, rfl, rfl, rfl, rfl⟩

theorem SgFrame.trans {ch ch' ch'' : DmaChannel} (first : SgFrame ch ch')
    (second : SgFrame ch' ch'') : SgFrame ch ch'' where
  reg addr h := (second.reg addr h).trans (first.reg addr h)
  pktSize := second.pktSize.trans first.pktSize
  linkNumber := second.linkNumber.trans first.linkNumber
  lastEbdmOffset := second.lastEbdmOffset.trans first.lastEbdmOffset
  lastRbdmOffset := second.lastRbdmOffset.trans first.lastRbdmOffset

theorem pushSglistEntryToRAM_frame (ch : DmaChannel) (sgAddr : Word64) (sgLen ctrl : Word32) :
    SgFrame ch (ch.pushSglistEntryToRAM sgAddr sgLen ctrl) := by
  refine ⟨?_, ?_, rfl, rfl, rfl⟩
  · intro addr h
    simp only [Reg.sgentryAddrLow] at h
    simp only [pushSglistEntryToRAM, setPciReg, memcopy, ChannelDevice.memcopy]
    iterate 4
      rw [ChannelDevice.setPciReg_reg_of_ne _ _ (by
        simp only [Reg.sgentryAddrLow, Reg.sgentryCtrl]; omega)]
  · simp only [pushSglistEntryToRAM, setPciReg, memcopy, ChannelDevice.memcopy]
    iterate 4 rw [ChannelDevice.setPciReg_reg_of_ne _ _ (by decide)]

theorem pushSglistEntryToRAM_rams (ch : DmaChannel) (sgAddr : Word64) (sgLen ctrl : Word32)
    (enabled : ctrl.getLsbD 31 = true) :
    (ch.pushSglistEntryToRAM sgAddr sgLen ctrl).device.rams =
      ch.device.rams.store ⟨⟨sgAddr, sgLen⟩, ctrl⟩ := by
  have latched : (ch.device.memcopy Reg.sgentryAddrLow
      [lowWord sgAddr, highWord sgAddr, sgLen]).latched = ⟨sgAddr, sgLen⟩ := by
    simp [ChannelDevice.latched, ChannelDevice.memcopy, ChannelDevice.setPciReg,
      Reg.sgentryAddrLow, Reg.sgentryAddrHigh, Reg.sgentryLen, Reg.sgentryCtrl,
      Reg.ebdmNSgConfig, Reg.rbdmNSgConfig, highWord_append_lowWord]
  have untouched : (ch.device.memcopy Reg.sgentryAddrLow
      [lowWord sgAddr, highWord sgAddr, sgLen]).rams = ch.device.rams := by
    simp only [ChannelDevice.memcopy]
    iterate 3 rw [ChannelDevice.setPciReg_rams _ _ (by decide)]
  show ((ch.device.memcopy Reg.sgentryAddrLow
    [lowWord sgAddr, highWord sgAddr, sgLen]).setPciReg Reg.sgentryCtrl ctrl).rams = _
  rw [ChannelDevice.setPciReg_sgentryCtrl_rams _ _ enabled, latched, untouched]

end DmaChannel
end Librorc
