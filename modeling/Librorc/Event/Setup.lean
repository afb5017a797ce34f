import Librorc.Event.SglistRead
import Librorc.Dma.EntryCount
import Librorc.Dma.Pointers
import Librorc.Lib.BitField
import Librorc.Lib.Throwing

/-!
# Setting up a stream

A packet size may be chosen first; the buffers are then allocated, the report
buffer with one descriptor for each packet of the event buffer, and the channel
starts with its read pointers one packet and one descriptor before the end.
-/

namespace Librorc

open Librorc.Lib

/-! ## Packet size -/

/-- The members of `event_stream` these calls use. -/
structure StreamSetup where
  esType : EventStreamDirection
  pciePacketSize : Word32
  channel : Option DmaChannel

def StreamSetup.overridePciePacketSize (s : StreamSetup) (pciePacketSize : Word32) :
    Int × StreamSetup :=
  if pciePacketSize = 0 ∨ pciePacketSize % 4 ≠ 0 then (-1, s)
  else if s.esType = .toHost ∧ 256 < pciePacketSize then (-1, s)
  else if s.esType ≠ .toHost ∧ 512 < pciePacketSize then (-1, s)
  else
    (0, { s with
      pciePacketSize := pciePacketSize
      channel := s.channel.map (·.setPciePacketSize pciePacketSize) })

/-- What both directions ask for. -/
theorem StreamSetup.accepted {s s' : StreamSetup} {p : Word32}
    (accepted : s.overridePciePacketSize p = (0, s')) :
    s'.pciePacketSize = p ∧ 0 < p.toNat ∧ p.toNat % 4 = 0 ∧ p.toNat ≤ 512 := by
  unfold overridePciePacketSize at accepted
  split_ifs at accepted with invalid toHost toDevice
  · cases accepted
  · cases accepted
  · cases accepted
  · obtain ⟨nonzero, multiple⟩ := not_or.mp invalid
    have positive : 0 < p.toNat := Nat.pos_of_ne_zero (BitVec.toNat_ne.mp nonzero)
    have dvd : p.toNat % 4 = 0 := congrArg BitVec.toNat (not_not.mp multiple)
    have bound : p.toNat ≤ 512 := by
      by_cases dir : s.esType = .toHost
      · have le : p.toNat ≤ 256 := Nat.not_lt.mp (not_and.mp toHost dir)
        omega
      · exact Nat.not_lt.mp (not_and.mp toDevice dir)
    exact ⟨(congrArg (fun r => r.2.pciePacketSize) accepted).symm, positive, dvd, bound⟩

/-! ## Reading the configuration back -/

/-- Every getter but the one of the packet size returns what was configured. -/
structure SizesReadBack (ch : DmaChannel) (eb rb : Buffer) (packetSize : Word32) : Prop where
  ebSize : ch.getEBSize = eb.size
  rbSize : ch.getRBSize = rb.size
  ebOffset : ch.getEBOffset = eb.size - packetSize.setWidth 64
  lastEBOffset : ch.getLastEBOffset = eb.size - packetSize.setWidth 64
  rbOffset : ch.getRBOffset = rb.size - 32
  lastRBOffset : ch.getLastRBOffset = rb.size - 32
  ebEntries : ch.getEBDMNumberOfSgEntries.toNat = eb.getnSGEntries.1
  rbEntries : ch.getRBDMNumberOfSgEntries.toNat = rb.getnSGEntries.1

/-- All of them do. -/
structure ReadsBack (ch : DmaChannel) (eb rb : Buffer) (packetSize : Word32) : Prop
    extends SizesReadBack ch eb rb packetSize where
  packetSize : ch.pciePacketSize = packetSize

namespace DmaChannel

variable (ch : DmaChannel) (eb rb : Buffer) (packetSize : Word32)

/-- The ten registers of the block lie as the getters expect them. -/
theorem configureDmaChannelRegisters_sizesReadBack (ebFew : eb.getnSGEntries.1 < 2 ^ 16)
    (rbFew : rb.getnSGEntries.1 < 2 ^ 16) :
    SizesReadBack (ch.configureDmaChannelRegisters eb rb packetSize).1 eb rb packetSize := by
  obtain ⟨ebCount, rbCount⟩ := ch.configureDmaChannelRegisters_counts eb rb packetSize
  rw [Buffer.getnSGEntries_fst] at ebFew rbFew
  exact
    { ebSize := recombine rfl rfl
      rbSize := recombine rfl rfl
      ebOffset := recombine rfl rfl
      lastEBOffset := rfl
      rbOffset := recombine rfl rfl
      lastRBOffset := rfl
      ebEntries := by rw [ebCount, count_toNat ebFew, Buffer.getnSGEntries_fst]
      rbEntries := by rw [rbCount, count_toNat rbFew, Buffer.getnSGEntries_fst] }

/-- The packet size register counts DWs. -/
theorem pciePacketSize_configureDmaChannelRegisters (small : packetSize.toNat < 2 ^ 12) :
    (ch.configureDmaChannelRegisters eb rb packetSize).1.pciePacketSize.toNat =
      packetSize.toNat / 4 := by
  have written : (ch.configureDmaChannelRegisters eb rb packetSize).1.pciePacketSize =
      (packetSize >>> 2) &&& BitVec.ofNat 32 (2 ^ 10 - 1) := rfl
  rw [written, toNat_field packetSize 2 (by omega)]
  exact Nat.mod_eq_of_lt (by omega)

end DmaChannel

/-- All getters but one return what was configured; `pciePacketSize` returns a
quarter of it, whatever the packet size. -/
theorem configureDmaChannelRegisters_not_readsBack {s s' : StreamSetup} {packetSize : Word32}
    (accepted : s.overridePciePacketSize packetSize = (0, s')) (ch : DmaChannel) {eb rb : Buffer}
    (ebFew : eb.getnSGEntries.1 < 2 ^ 16) (rbFew : rb.getnSGEntries.1 < 2 ^ 16) :
    let ch' := (ch.configureDmaChannelRegisters eb rb packetSize).1
    SizesReadBack ch' eb rb packetSize ∧ 4 * ch'.pciePacketSize.toNat = packetSize.toNat ∧
      ¬ ReadsBack ch' eb rb packetSize := by
  obtain ⟨-, positive, multiple, bound⟩ := StreamSetup.accepted accepted
  have register :=
    ch.pciePacketSize_configureDmaChannelRegisters eb rb packetSize (by omega)
  refine ⟨ch.configureDmaChannelRegisters_sizesReadBack eb rb packetSize ebFew rbFew, ?_, ?_⟩
  · rw [register]
    omega
  · intro reads
    rw [reads.packetSize] at register
    omega

/-- A stream towards the host on a device with 128 bytes payload. -/
def toHostSetup : StreamSetup := ⟨.toHost, 128, none⟩

theorem configureDmaChannelRegisters_not_readsBack_128 :
    let eb := oneSegmentBuffer 0x10000 0x1000
    let rb := oneSegmentBuffer 0x20000 0x400
    let ch' := (sixteenEntryChannel.configureDmaChannelRegisters eb rb 128).1
    SizesReadBack ch' eb rb 128 ∧ 4 * ch'.pciePacketSize.toNat = (128 : Word32).toNat ∧
      ¬ ReadsBack ch' eb rb 128 :=
  configureDmaChannelRegisters_not_readsBack
    (show toHostSetup.overridePciePacketSize 128 = (0, toHostSetup) from rfl) sixteenEntryChannel
    (by decide) (by decide)

/-- 256 bytes are accepted and read back as 64. -/
theorem not_readsBack_256 :
    let eb := oneSegmentBuffer 0x10000 0x1000
    let rb := oneSegmentBuffer 0x20000 0x200
    let ch' := (sixteenEntryChannel.configureDmaChannelRegisters eb rb 256).1
    (toHostSetup.overridePciePacketSize 256).1 = 0 ∧ ch'.pciePacketSize = 64 ∧
      ¬ ReadsBack ch' eb rb 256 := by
  refine ⟨rfl, rfl, fun reads => ?_⟩
  exact absurd reads.packetSize (by decide)

/-! ## Allocating the buffers -/

/-- `LIBRORC_BUFFER_ERROR_*`, as far as the constructors throw them. -/
def bufferErrorInvalidSize : Int := 0x1001
def bufferErrorGetlengthFailed : Int := 0x1002
def bufferErrorGetmapFailed : Int := 0x1003
def bufferErrorDeleteFailed : Int := 0x1005
def bufferErrorAllocFailed : Int := 0x1006
def bufferErrorWrapmapFailed : Int := 0x1007
def bufferErrorGetbufFailed : Int := 0x1008
def bufferErrorGetmaptwoFailed : Int := 0x1009

inductive Build
  | pda
  | sysfs

/-- The driver's side of one buffer ID, and how it answers. -/
structure DriverBuffer where
  /-- Size of the buffer with this ID; `none` when there is none. -/
  existing : Option Word64
  sizeRead : Bool
  deletes : Bool
  /-- An allocation, with the size the new buffer has. -/
  allocates : Word64 → Option Word64
  /-- Whether there is a second mapping; `none` when the question fails. -/
  mapTwo : Option Bool
  wraps : Bool
  maps : Word64 → Bool
  /-- The kernel's list of the buffer. -/
  list : SgSource

namespace DriverBuffer

variable (d : DriverBuffer)

/-! The constructors, with `overmap` set as `event_stream` sets it. -/

def wrapMap : Except Int Unit :=
  match d.mapTwo with
  | none => .error bufferErrorGetmaptwoFailed
  | some true => .ok ()
  | some false => if d.wraps then .ok () else .error bufferErrorWrapmapFailed

/-- `connect` of the PDA build, which asks for the size again. -/
def connectPda (length : Word64) : Except Int Buffer :=
  if ¬ d.sizeRead then .error bufferErrorGetlengthFailed
  else if ¬ d.maps length then .error bufferErrorGetmapFailed
  else .ok (Buffer.connect d.list length)

def connectSysfs (size : Word64) : Except Int Buffer :=
  if ¬ d.maps size then .error bufferErrorGetmapFailed else .ok (Buffer.connect d.list size)

/-- The buffer with this ID when it has the right size; another one is deleted. -/
def reusePda (size : Word64) : Except Int (Option Word64) :=
  match d.existing with
  | none => .ok none
  | some length =>
      if ¬ d.sizeRead then .error bufferErrorGetlengthFailed
      else if size ≠ length then
        if ¬ d.deletes then .error bufferErrorDeleteFailed else .ok none
      else .ok (some length)

def allocPda (size : Word64) : Except Int Word64 :=
  match d.allocates size with
  | none => .error bufferErrorAllocFailed
  | some length => .ok length

def newBufferPda (size : Word64) : Except Int Buffer :=
  if size = 0 then .error bufferErrorInvalidSize
  else do
    let reused ← d.reusePda size
    let length ← reused.elim (d.allocPda size) .ok
    d.wrapMap
    d.connectPda length

/-- `sysfs_handler::get_buffer_size`. -/
def getBufferSize : Word64 := if d.sizeRead then d.existing.getD (-1) else -1

/-- `sysfs_handler::allocate_buffer`. -/
def allocateBuffer (size : Word64) : Int :=
  if size = 0 then -1 else if (d.allocates size).isNone then -1 else 0

/-- `m_size` before the constructor decides whether to allocate. -/
def foundSize : Word64 := if d.existing.isSome then d.getBufferSize else 0

def newBufferSysfs (size : Word64) : Except Int Buffer :=
  if 0 < d.foundSize.toInt ∧ d.foundSize = size then d.connectSysfs d.foundSize
  else if 0 < d.foundSize.toInt ∧ ¬ d.deletes then .error bufferErrorDeleteFailed
  else if d.allocateBuffer size < 0 then .error bufferErrorAllocFailed
  else d.connectSysfs size

/-- `buffer(dev, size, id, 1)`. -/
def newBuffer (build : Build) (size : Word64) : Except Int Buffer :=
  match build with
  | .pda => d.newBufferPda size
  | .sysfs => d.newBufferSysfs size

/-- `buffer(dev, id, 1)`. -/
def connectBuffer (build : Build) : Except Int Buffer :=
  match build with
  | .pda =>
      match d.existing with
      | none => .error bufferErrorGetbufFailed
      | some length => do
          d.wrapMap
          d.connectPda length
  | .sysfs => d.connectSysfs d.getBufferSize

/-- The driver gives the size that was asked for, or that many whole pages. -/
def Grants (page : PageSize) : Prop :=
  ∀ size length, d.allocates size = some length →
    length = size ∨
      length.toNat = (size.toNat + (page.bytes - 1)) / page.bytes * page.bytes

theorem reusePda_size {d : DriverBuffer} {size length : Word64}
    (reused : d.reusePda size = .ok (some length)) : length = size := by
  unfold reusePda at reused
  cases found : d.existing with
  | none =>
      rw [found] at reused
      cases reused
  | some there =>
      rw [found] at reused
      simp only at reused
      by_cases unread : ¬ d.sizeRead
      · rw [if_pos unread] at reused
        cases reused
      · rw [if_neg unread] at reused
        by_cases other : size ≠ there
        · rw [if_pos other] at reused
          split_ifs at reused
          cases reused
        · rw [if_neg other] at reused
          cases reused
          exact (not_not.mp other).symm

theorem connectPda_size {d : DriverBuffer} {length : Word64} {b : Buffer}
    (connected : d.connectPda length = .ok b) : b.size = length := by
  unfold connectPda at connected
  split_ifs at connected
  cases connected
  rfl

theorem connectSysfs_size {d : DriverBuffer} {size : Word64} {b : Buffer}
    (connected : d.connectSysfs size = .ok b) : b.size = size := by
  unfold connectSysfs at connected
  split_ifs at connected
  cases connected
  rfl

/-- A new buffer has the size that was asked for, or the one it was allocated
with. -/
theorem newBufferPda_size {d : DriverBuffer} {size : Word64} {b : Buffer}
    (made : d.newBufferPda size = .ok b) :
    size ≠ 0 ∧ (b.size = size ∨ d.allocates size = some b.size) := by
  unfold newBufferPda at made
  split_ifs at made with zero
  refine ⟨zero, ?_⟩
  obtain ⟨reused, found, made⟩ := ok_of_bind_ok made
  obtain ⟨length, sized, made⟩ := ok_of_bind_ok made
  obtain ⟨-, -, made⟩ := ok_of_bind_ok made
  rw [connectPda_size made]
  cases reused with
  | some there =>
      cases sized
      exact .inl (reusePda_size found)
  | none =>
      change d.allocPda size = .ok length at sized
      unfold allocPda at sized
      cases granted : d.allocates size with
      | none =>
          rw [granted] at sized
          cases sized
      | some there =>
          rw [granted] at sized
          cases sized
          exact .inr rfl

theorem newBufferSysfs_size {d : DriverBuffer} {size : Word64} {b : Buffer}
    (made : d.newBufferSysfs size = .ok b) : size ≠ 0 ∧ b.size = size := by
  unfold newBufferSysfs at made
  split_ifs at made with reused other refused
  · -- the buffer there has this size, which is positive
    obtain ⟨positive, same⟩ := reused
    have size := connectSysfs_size made
    rw [same] at positive size
    refine ⟨?_, size⟩
    intro zero
    rw [zero] at positive
    exact absurd positive (by decide)
  · refine ⟨?_, connectSysfs_size made⟩
    rintro rfl
    exact refused (by simp [allocateBuffer])

/-- A page is at least a descriptor, or a whole part of one. -/
theorem wholePages_descriptors {page : PageSize} {n : Nat}
    (whole : DmaChannel.sizeofEventDescriptor ∣ n) (positive : 0 < n) :
    DmaChannel.sizeofEventDescriptor ∣ (n + (page.bytes - 1)) / page.bytes * page.bytes ∧
      0 < (n + (page.bytes - 1)) / page.bytes * page.bytes := by
  have pagePos := page.bytes_pos
  constructor
  · rcases Nat.le_total page.shift 5 with small | large
    · have part : page.bytes ∣ n := Nat.dvd_trans (Nat.pow_dvd_pow 2 small) whole
      obtain ⟨k, rfl⟩ := part
      have rounded : (page.bytes * k + (page.bytes - 1)) / page.bytes = k := by
        rw [Nat.mul_add_div pagePos, Nat.div_eq_of_lt (by omega), Nat.add_zero]
      rw [rounded, Nat.mul_comm]
      exact whole
    · exact Nat.dvd_trans (Nat.pow_dvd_pow 2 large) (Nat.dvd_mul_left ..)
  · exact Nat.mul_pos (Nat.div_pos (by omega) pagePos) pagePos

/-- Sizes that are whole descriptors are granted as whole descriptors. -/
theorem newBuffer_descriptors {d : DriverBuffer} {page : PageSize} {build : Build}
    {size : Word64} {b : Buffer} (grants : build = .pda → d.Grants page)
    (whole : DmaChannel.sizeofEventDescriptor ∣ size.toNat)
    (made : d.newBuffer build size = .ok b) :
    size ≠ 0 ∧ DmaChannel.sizeofEventDescriptor ∣ b.size.toNat ∧
      0 < b.size.toNat := by
  have positive : size ≠ 0 → 0 < size.toNat := by
    intro nonzero
    exact Nat.pos_of_ne_zero (BitVec.toNat_ne.mp nonzero)
  cases build with
  | sysfs =>
      obtain ⟨nonzero, same⟩ := newBufferSysfs_size made
      rw [same]
      exact ⟨nonzero, whole, positive nonzero⟩
  | pda =>
      obtain ⟨nonzero, same | granted⟩ := newBufferPda_size made
      · rw [same]
        exact ⟨nonzero, whole, positive nonzero⟩
      · refine ⟨nonzero, ?_⟩
        rcases grants rfl size b.size granted with same | pages
        · rw [same]
          exact ⟨whole, positive nonzero⟩
        · rw [pages]
          exact wholePages_descriptors whole (positive nonzero)

end DriverBuffer

namespace StreamSetup

variable (s : StreamSetup)

/-- One descriptor for each packet of the event buffer. -/
def reportBufferSize (eventBuffer : Buffer) : Word64 :=
  (eventBuffer.getPhysicalSize / s.pciePacketSize.setWidth 64) *
    BitVec.ofNat 64 DmaChannel.sizeofEventDescriptor

/-- `initializeDmaBuffers`, which allocates its buffers. With an event buffer
size of zero it connects to the buffer there is. -/
def initializeDmaBuffers (build : Build) (driver : Word64 → DriverBuffer)
    (eventBufferId eventBufferSize : Word64) : Int × Option Buffer × Option Buffer :=
  let eventBuffer :=
    if eventBufferSize ≠ 0 then (driver eventBufferId).newBuffer build eventBufferSize
    else (driver eventBufferId).connectBuffer build
  Librorc.initializeDmaBuffers eventBufferId eventBuffer
    (eventBuffer.bind fun eb =>
      (driver (eventBufferId + 1)).newBuffer build (s.reportBufferSize eb))

variable {build : Build} {driver : Word64 → DriverBuffer} {bufferId bufferSize : Word64}
  {eb rb : Buffer}

theorem reportBufferSize_descriptors (s : StreamSetup) (eb : Buffer) :
    DmaChannel.sizeofEventDescriptor ∣ (s.reportBufferSize eb).toNat := by
  have modulus : DmaChannel.sizeofEventDescriptor ∣ 2 ^ 64 := by decide
  rw [reportBufferSize, BitVec.toNat_mul]
  exact (Nat.dvd_mod_iff modulus).mpr (Nat.dvd_mul_left ..)

/-- A report buffer that is not empty has a packet of the event buffer for each
descriptor. -/
theorem packetSize_le (nonzero : s.reportBufferSize eb ≠ 0) :
    s.pciePacketSize.toNat ≤ eb.size.toNat := by
  by_contra small
  refine nonzero ?_
  have quotient : eb.getPhysicalSize / s.pciePacketSize.setWidth 64 = 0 := by
    apply BitVec.eq_of_toNat_eq
    have bound := s.pciePacketSize.isLt
    rw [BitVec.toNat_udiv, BitVec.toNat_setWidth, Nat.mod_eq_of_lt (by omega)]
    exact Nat.div_eq_of_lt (Nat.not_le.mp small)
  rw [reportBufferSize, quotient]
  exact BitVec.zero_mul

/-- The two buffers of a successful call. -/
theorem initializeDmaBuffers_made
    (done : s.initializeDmaBuffers build driver bufferId bufferSize = (0, some eb, some rb)) :
    (driver (bufferId + 1)).newBuffer build (s.reportBufferSize eb) = .ok rb := by
  unfold initializeDmaBuffers Librorc.initializeDmaBuffers at done
  generalize (if bufferSize ≠ 0 then (driver bufferId).newBuffer build bufferSize
    else (driver bufferId).connectBuffer build) = eventBuffer at done
  cases eventBuffer with
  | error e =>
      simp only at done
      split_ifs at done <;> cases done
  | ok made =>
      simp only [Except.bind] at done
      split_ifs at done
      · cases done
      · cases report : (driver (bufferId + 1)).newBuffer build (s.reportBufferSize made) with
        | error e =>
            rw [report] at done
            cases done
        | ok made' =>
            rw [report] at done
            cases done
            exact report

end StreamSetup

/-! ## The first read pointers -/

/-- The read pointers lie in their buffers, a multiple of the packet size and of
the descriptor size. -/
structure PointersFit (ch : DmaChannel) (eb rb : Buffer) (packetSize : Word32) : Prop where
  ebInside : ch.getEBOffset.toNat < eb.size.toNat
  ebAligned : packetSize.toNat ∣ ch.getEBOffset.toNat
  rbInside : ch.getRBOffset.toNat < rb.size.toNat
  rbAligned : DmaChannel.sizeofEventDescriptor ∣ ch.getRBOffset.toNat

/-- One unit before the end is inside, and aligned when the end is. -/
theorem before_end (size unit : Word64) (positive : 0 < unit.toNat)
    (fits : unit.toNat ≤ size.toNat) :
    (size - unit).toNat < size.toNat ∧
      (unit.toNat ∣ (size - unit).toNat ↔ unit.toNat ∣ size.toNat) := by
  rw [BitVec.toNat_sub_of_le fits]
  refine ⟨by omega, ?_⟩
  rw [Nat.dvd_sub_iff_left fits (Nat.dvd_refl _)]

/-- On the buffers of a successful call the pointers fit exactly when the event
buffer is a whole number of packets; the report buffer always fits. -/
theorem configureDmaChannelRegisters_pointersFit_iff {s s' : StreamSetup} {packetSize : Word32}
    {build : Build} {driver : Word64 → DriverBuffer} {page : PageSize}
    {bufferId bufferSize : Word64} {eb rb : Buffer}
    (accepted : s.overridePciePacketSize packetSize = (0, s'))
    (grants : build = .pda → (driver (bufferId + 1)).Grants page)
    (done : s'.initializeDmaBuffers build driver bufferId bufferSize = (0, some eb, some rb))
    (ch : DmaChannel) :
    PointersFit (ch.configureDmaChannelRegisters eb rb s'.pciePacketSize).1 eb rb packetSize ↔
      packetSize.toNat ∣ eb.size.toNat := by
  obtain ⟨same, positive, -, small⟩ := StreamSetup.accepted accepted
  have made := s'.initializeDmaBuffers_made done
  obtain ⟨nonzero, whole, nonempty⟩ :=
    DriverBuffer.newBuffer_descriptors grants (s'.reportBufferSize_descriptors eb) made
  have fits := s'.packetSize_le nonzero
  rw [same] at fits ⊢
  have widened : (packetSize.setWidth 64).toNat = packetSize.toNat := by
    rw [BitVec.toNat_setWidth]
    exact Nat.mod_eq_of_lt (by omega)
  have ebOffset : (ch.configureDmaChannelRegisters eb rb packetSize).1.getEBOffset =
      eb.size - packetSize.setWidth 64 := DmaChannel.recombine rfl rfl
  have rbOffset : (ch.configureDmaChannelRegisters eb rb packetSize).1.getRBOffset =
      rb.size - 32 := DmaChannel.recombine rfl rfl
  obtain ⟨ebInside, ebAligned⟩ :=
    before_end eb.size (packetSize.setWidth 64) (by omega) (by omega)
  obtain ⟨rbInside, rbAligned⟩ := before_end rb.size 32 (by decide) (Nat.le_of_dvd nonempty whole)
  rw [widened] at ebAligned
  constructor
  · intro fit
    have aligned := fit.ebAligned
    rw [ebOffset] at aligned
    exact ebAligned.mp aligned
  · intro dvd
    exact
      { ebInside := ebOffset ▸ ebInside
        ebAligned := ebOffset ▸ ebAligned.mpr dvd
        rbInside := rbOffset ▸ rbInside
        rbAligned := rbOffset ▸ rbAligned.mpr whole }

/-- A driver without buffers that grants every request. -/
def generousDriver (_ : Word64) : DriverBuffer where
  existing := none
  sizeRead := true
  deletes := true
  allocates := some
  mapTwo := some false
  wraps := true
  maps := fun _ => true
  list := .pda none

theorem configureDmaChannelRegisters_pointersFit_iff_256 :
    let eb := Buffer.connect (.pda none) 0x1000
    let rb := Buffer.connect (.pda none) 0x200
    PointersFit (sixteenEntryChannel.configureDmaChannelRegisters eb rb 256).1 eb rb 256 ↔
      (256 : Word32).toNat ∣ eb.size.toNat := by
  have accepted : toHostSetup.overridePciePacketSize 256 = (0, ⟨.toHost, 256, none⟩) := rfl
  have grants : Build.sysfs = .pda → (generousDriver (0 + 1)).Grants .fourKiB :=
    Build.noConfusion
  have done : StreamSetup.initializeDmaBuffers ⟨.toHost, 256, none⟩ .sysfs generousDriver 0 0x1000 =
      (0, some (Buffer.connect (.pda none) 0x1000), some (Buffer.connect (.pda none) 0x200)) := rfl
  exact configureDmaChannelRegisters_pointersFit_iff accepted grants done sixteenEntryChannel

/-- Packets of 12 bytes are accepted; the pointer into a buffer of 4096 bytes is
then 4084, which is 340 packets and 4 bytes. -/
theorem not_pointersFit_12 :
    let s : StreamSetup := ⟨.toHost, 12, none⟩
    let eb := Buffer.connect (.pda none) 0x1000
    let rb := Buffer.connect (.pda none) 0x2aa0
    let ch := (sixteenEntryChannel.configureDmaChannelRegisters eb rb 12).1
    toHostSetup.overridePciePacketSize 12 = (0, s) ∧
      s.initializeDmaBuffers .sysfs generousDriver 0 0x1000 = (0, some eb, some rb) ∧
      ch.getEBOffset = 4084 ∧ ¬ PointersFit ch eb rb 12 := by
  refine ⟨rfl, rfl, rfl, fun fit => ?_⟩
  exact absurd fit.ebAligned (by decide)

end Librorc
