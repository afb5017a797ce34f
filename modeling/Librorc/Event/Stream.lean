import Librorc.Dma.Channel
import Librorc.Lib.Cyclic

/-!
# `librorc::event_stream`: receiving and releasing events

The report buffer is a ring of event descriptors in DMA memory: the device
fills slots, `getNextEvent` hands them out in order, `releaseEvent` takes
them back in any order and `updateBufferOffsets` reclaims what is contiguous.
A descriptor with a zero `reported_event_size` is an empty slot.
-/

namespace Librorc

open Librorc.Lib

/-- `EventDescriptor`, as the device writes it. -/
structure EventDescriptor where
  offset : Word64
  reportedEventSize : Word32
  calcEventSize : Word32
  dummy : Word64
  dummy2 : Word64
deriving DecidableEq

/-- What `memset(…, 0, …)` leaves in a slot. -/
def EventDescriptor.zero : EventDescriptor := ⟨0, 0, 0, 0, 0⟩

/-- A report buffer that holds one descriptor at least. -/
structure ReportRing where
  physicalSize : Nat
  holdsOne : DmaChannel.sizeofEventDescriptor ≤ physicalSize
  physicalSize_lt : physicalSize < 2 ^ 64

namespace ReportRing

/-- `m_max_rb_entries`, from `buffer::getMaxRBEntries`. -/
def maxRbEntries (ring : ReportRing) : Nat :=
  ring.physicalSize / DmaChannel.sizeofEventDescriptor

theorem maxRbEntries_pos (ring : ReportRing) : 0 < ring.maxRbEntries :=
  Nat.div_pos ring.holdsOne (by decide)

/-- A slot's byte offset lies in the buffer. -/
theorem slot_offset_lt (ring : ReportRing) {i : Nat} (inside : i < ring.maxRbEntries) :
    i * DmaChannel.sizeofEventDescriptor < ring.physicalSize := by
  have fits := Nat.div_mul_le_self ring.physicalSize DmaChannel.sizeofEventDescriptor
  have slots : i + 1 ≤ ring.physicalSize / DmaChannel.sizeofEventDescriptor := inside
  have scaled := Nat.mul_le_mul_right DmaChannel.sizeofEventDescriptor slots
  simp only [DmaChannel.sizeofEventDescriptor] at *
  omega

/-- No slot number is mistaken for `EVENT_INDEX_UNDEFINED`. -/
theorem maxRbEntries_lt (ring : ReportRing) : ring.maxRbEntries < 2 ^ 64 - 1 := by
  have size := ring.physicalSize_lt
  simp only [maxRbEntries, DmaChannel.sizeofEventDescriptor]
  omega

end ReportRing

/-- `LIBRORC_EVENT_STREAM_ERROR_*`, as far as `initializeDmaChannel` returns
them. -/
def errorBufferNotInitialized : Int := 0x3006
def errorBufferSglistExceeded : Int := 0x3007
def errorDmaConfigFailed : Int := 0x3008

/-- `initializeDmaChannel`; the report buffer is cleared before the engine
starts. -/
def initializeDmaChannel (page : PageSize) (channel : DmaChannel)
    (eventBuffer reportBuffer : Option Buffer) (esType : EventStreamDirection)
    (pciePacketSize : Word32) : Int × DmaChannel :=
  if eventBuffer.isNone ∨ reportBuffer.isNone then (errorBufferNotInitialized, channel)
  else
    let (ret, channel) := channel.configure page eventBuffer reportBuffer esType pciePacketSize
    if ret ≠ 0 then
      if ret = enodev then (errorBufferNotInitialized, channel)
      else if ret = efbig then (errorBufferSglistExceeded, channel)
      else (errorDmaConfigFailed, channel)
    else (0, channel.enable)

/-- `EVENT_INDEX_UNDEFINED`. -/
def eventIndexUndefined : Nat := 0xffffffffffffffff

/-- `librorc::event_stream`, with the part of `ChannelStatus` these calls
write. -/
@[ext] structure EventStream (ring : ReportRing) where
  receiveIndex : Nat
  releaseIndex : Nat
  releaseMap : Nat → Bool
  reports : Nat → EventDescriptor
  receiveOffset : Word64
  releaseOffset : Word64
  channel : DmaChannel

/-- What a successful `getNextEvent` returns: the reference (slot) and the
descriptor there. `event` is the word index of `getRawEvent`. -/
structure NextEvent where
  reference : Nat
  report : EventDescriptor
  event : Word64
deriving DecidableEq

/-- `getRawEvent`: index of the event's first word in the event buffer. -/
def getRawEvent (report : EventDescriptor) : Word64 := report.offset / 4

/-- `memset(&m_reports[start], 0, count * sizeof(EventDescriptor))`. -/
def clearReports (reports : Nat → EventDescriptor) (start count : Nat) : Nat → EventDescriptor :=
  fun i => if start ≤ i ∧ i < start + count then .zero else reports i

/-- The variables of `updateBufferOffsets`, members included. -/
structure ReleaseScan where
  releaseIndex : Nat
  releaseMap : Nat → Bool
  reports : Nat → EventDescriptor
  eventBufferOffset : Word64
  reportBufferOffset : Word64
  releaseIndexStart : Nat
  releaseIndexCount : Nat

namespace EventStream

variable {ring : ReportRing}

/-- The stream `initMembers` and `initializeDmaBuffers` set up, on a cleared
report buffer. -/
def initial (ring : ReportRing) (channel : DmaChannel) : EventStream ring where
  receiveIndex := eventIndexUndefined
  releaseIndex := 0
  releaseMap := fun _ => false
  reports := fun _ => .zero
  receiveOffset := 0
  releaseOffset := 0
  channel := channel

/-- The slot `getNextEvent` looks at. -/
def nextReceiveIndex (s : EventStream ring) : Nat :=
  if s.receiveIndex = eventIndexUndefined then 0
  else cyclicNext ring.maxRbEntries s.receiveIndex

def getNextEvent (s : EventStream ring) : Option NextEvent × EventStream ring :=
  let tmpIndex := s.nextReceiveIndex
  if (s.reports tmpIndex).reportedEventSize = 0 then (none, s)
  else
    (some ⟨tmpIndex, s.reports tmpIndex, getRawEvent (s.reports tmpIndex)⟩,
      { s with receiveIndex := tmpIndex, receiveOffset := (s.reports tmpIndex).offset })

/-- One turn of the loop in `updateBufferOffsets`. -/
def scanTurn (ring : ReportRing) (v : ReleaseScan) : ReleaseScan :=
  let next := cyclicNext ring.maxRbEntries v.releaseIndex
  let v' : ReleaseScan :=
    { v with
      releaseMap := Function.update v.releaseMap v.releaseIndex false
      eventBufferOffset := (v.reports v.releaseIndex).offset
      reportBufferOffset := BitVec.ofNat 64
        ((v.releaseIndex * DmaChannel.sizeofEventDescriptor) % ring.physicalSize)
      releaseIndexCount := v.releaseIndexCount + 1
      releaseIndex := next }
  -- wrap-around: clear up to the end and start over from 0
  if next = 0 then
    { v' with
      reports := clearReports v'.reports v'.releaseIndexStart v'.releaseIndexCount
      releaseIndexCount := 0
      releaseIndexStart := 0 }
  else v'

/-- The loop, for at most `fuel` turns. -/
def scan (ring : ReportRing) : Nat → ReleaseScan → ReleaseScan
  | 0, v => v
  | fuel + 1, v => if v.releaseMap v.releaseIndex then scan ring fuel (scanTurn ring v) else v

/-- `updateBufferOffsets`. The two offsets are assigned in the first turn; a
turn clears a mark, so there are at most `m_max_rb_entries` of them. -/
def updateBufferOffsets (s : EventStream ring) : EventStream ring :=
  if s.releaseMap s.releaseIndex ≠ true then s
  else
    let v := scan ring ring.maxRbEntries
      { releaseIndex := s.releaseIndex
        releaseMap := s.releaseMap
        reports := s.reports
        eventBufferOffset := 0
        reportBufferOffset := 0
        releaseIndexStart := s.releaseIndex
        releaseIndexCount := 0 }
    { s with
      releaseIndex := v.releaseIndex
      releaseMap := v.releaseMap
      reports := clearReports v.reports v.releaseIndexStart v.releaseIndexCount
      channel := s.channel.setBufferOffsetsOnDevice v.eventBufferOffset v.reportBufferOffset
      releaseOffset := v.eventBufferOffset }

def releaseEvent (s : EventStream ring) (reference : Nat) : Int × EventStream ring :=
  if ring.maxRbEntries ≤ reference then (-1, s)
  else
    (0, updateBufferOffsets
      { s with releaseMap := Function.update s.releaseMap reference true })

end EventStream
end Librorc
