import Librorc.Dma.Coalesce
import Librorc.Dma.Translate
import Librorc.Dma.WritePointer
import Librorc.Lib.AddressedRing
import Librorc.Lib.BitField

/-!
# From the device to the mapping

The kernel gives a buffer as scattered pieces of physical memory and maps them
behind one another, and the mapping once more behind itself. The library joins
the pieces, splits what is too long and programs the descriptor RAMs; the
device finds the address of a byte there and wraps at the size it was given.
Both ends number the bytes of the buffer alike, whatever was joined and split
between them.
-/

namespace Librorc

open Librorc.Lib

/-- The addresses of a mapping's bytes, as the kernel lists them. -/
def SgSource.mappedBytes : SgSource → Option (List Word64)
  | .pda nodes => nodes.map sgBytes
  | .sysfs entries => entries.map fun list => segBytes (scatterSegs list)

/-- Joining keeps them. -/
theorem SgSource.mappedBytes_eq (source : SgSource) :
    source.mappedBytes = source.read.map sgBytes := by
  cases source with
  | pda nodes => rfl
  | sysfs entries =>
      rw [mappedBytes, read, Option.map_map]
      congr 1
      funext list
      exact (coalesce_bytes list).symm

/-- A buffer the driver has allocated: pieces that are not empty and have no
byte in common, as many bytes as its size says. -/
structure MappedBuffer where
  buffer : Buffer
  list : List ScatterGatherEntry
  hasList : buffer.source.read = some list
  nonempty : ∀ e ∈ list, e.length ≠ 0
  nodup : (sgBytes list).Nodup
  size_eq : buffer.size.toNat = sgTotal list
  size_pos : 0 < buffer.size.toNat

namespace MappedBuffer

variable (b : MappedBuffer)

/-- The bytes of the buffer as a ring. -/
def ring : AddressedRing Word64 where
  cells := sgBytes b.list
  nonempty := by
    rw [length_sgBytes, ← b.size_eq]
    exact b.size_pos
  nodup := b.nodup

theorem size_ring : b.ring.size = b.buffer.size.toNat := by
  rw [b.size_eq, ← length_sgBytes]
  rfl

/-- Byte `i` of the mapping, which shows the buffer twice. -/
def mappedByte (mem : Word64 → Word8) (i : Nat) : Option Word8 :=
  if i < 2 * b.buffer.size.toNat then
    (b.buffer.source.mappedBytes.bind fun bytes => bytes[i % b.buffer.size.toNat]?).map mem
  else none

theorem mappedByte_eq (mem : Word64 → Word8) {i : Nat} (inside : i < 2 * b.buffer.size.toNat) :
    b.mappedByte mem i = some (b.ring.view mem i) := by
  rw [mappedByte, if_pos inside, SgSource.mappedBytes_eq, b.hasList, Option.map_some,
    Option.bind_some, ← b.size_ring]
  exact congrArg (Option.map mem) (b.ring.getElem?_cells i)

/-- Bytes `start` to `start + len` of the mapping. -/
def readMapping (mem : Word64 → Word8) (start len : Nat) : List (Option Word8) :=
  (List.range len).map fun i => b.mappedByte mem (start + i)

/-- Read without a jump at the end of the buffer. -/
theorem readMapping_eq (mem : Word64 → Word8) {start len : Nat}
    (short : len ≤ b.buffer.size.toNat) :
    b.readMapping mem (start % b.buffer.size.toNat) len =
      (ringLoad b.ring.size (b.ring.view mem) start len).map some := by
  have bound := Nat.mod_lt start b.size_pos
  rw [readMapping, ← ringLoad_mod, ringLoad, List.map_map, b.size_ring]
  refine List.map_congr_left ?_
  intro i inside
  rw [List.mem_range] at inside
  rw [b.mappedByte_eq mem (by omega), Function.comp_apply, ← b.size_ring, b.ring.view_mod]

end MappedBuffer

/-! ## The device -/

/-- Bytes of the device for one of the two buffers, from a byte number on that
does not wrap. -/
structure DeviceTransfer where
  rbdm : Bool
  position : Nat
  data : List Word8

/-- A transfer is not overtaken by the ones behind it: those of its buffer start
at its end or later, and end before they come to its start again. -/
def DeviceTransfer.Undisturbed (t : DeviceTransfer) (n : Nat) (later : List DeviceTransfer) :
    Prop :=
  ∀ u ∈ later, u.rbdm = t.rbdm →
    t.position + t.data.length ≤ u.position ∧ u.position + u.data.length ≤ t.position + n

namespace DmaChannel

variable (ch : DmaChannel)

/-- The address of byte `o` in the descriptor RAM. -/
def deviceAddress (rbdm : Bool) (o : Nat) : Option Word64 :=
  (readRam (ch.device.rams.ram rbdm) (ch.maxNumSg rbdm)).bind fun entries =>
    (locate (entries.map RamEntry.seg) o).map Prod.fst

/-- The write of a transfer, byte by byte. The device has nowhere to write when
the RAM ends before the buffer does. -/
def deviceWrite (rbdm : Bool) (mem : Word64 → Word8) (position : Nat) :
    List Word8 → Option (Word64 → Word8)
  | [] => some mem
  | byte :: rest =>
      match ch.deviceAddress rbdm (position % (ch.bufferSize rbdm).toNat) with
      | none => none
      | some p => deviceWrite rbdm (Function.update mem p byte) (position + 1) rest

def deviceRun (mem : Word64 → Word8) : List DeviceTransfer → Option (Word64 → Word8)
  | [] => some mem
  | t :: rest =>
      match ch.deviceWrite t.rbdm mem t.position t.data with
      | none => none
      | some mem' => deviceRun mem' rest

/-! ## What `configure` gives the device -/

/-- The device has the addresses of a buffer and its size. -/
structure Knows (rbdm : Bool) (b : MappedBuffer) : Prop where
  ram : RamDescribes (ch.device.rams.ram rbdm) (ch.maxNumSg rbdm) (sgBytes b.list)
  size : ch.bufferSize rbdm = b.buffer.size

variable {ch} {rbdm : Bool} {b : MappedBuffer}

theorem Knows.deviceAddress_eq (knows : ch.Knows rbdm b) (k : Nat) :
    ch.deviceAddress rbdm (k % (ch.bufferSize rbdm).toNat) = some (b.ring.address k) := by
  obtain ⟨entries, found, bytes⟩ := knows.ram
  rw [deviceAddress, found, Option.bind_some, locate_fst, bytes, knows.size, ← b.size_ring]
  exact b.ring.getElem?_cells k

theorem Knows.deviceWrite_eq (knows : ch.Knows rbdm b) (mem : Word64 → Word8) (position : Nat)
    (data : List Word8) :
    ch.deviceWrite rbdm mem position data = some (b.ring.store mem position data) := by
  induction data generalizing mem position with
  | nil => rfl
  | cons byte rest ih =>
      rw [deviceWrite, knows.deviceAddress_eq]
      exact ih _ _

/-- The count is written below the capacity of the firmware. -/
theorem maxNumSg_configureDmaChannelRegisters (ch : DmaChannel) (eb rb : Buffer)
    (pciePacketSize : Word32) (rbdm : Bool) :
    (ch.configureDmaChannelRegisters eb rb pciePacketSize).1.maxNumSg rbdm = ch.maxNumSg rbdm := by
  -- `setPciReg` of the count keeps the upper half, which is the capacity
  have merge (old new : Word32) :
      ((old &&& 0xffff0000#32) ||| (new &&& 0x0000ffff#32)) >>> 16 = old >>> 16 := by
    have high : (old >>> 16) &&& 0xffff#32 = old >>> 16 := by
      have small := old.isLt
      apply BitVec.eq_of_toNat_eq
      refine (@toNat_and_low 32 (old >>> 16) 16 (by omega)).trans ?_
      rw [BitVec.toNat_ushiftRight, Nat.shiftRight_eq_div_pow]
      exact Nat.mod_eq_of_lt (by omega)
    rw [BitVec.ushiftRight_or_distrib, BitVec.ushiftRight_and_distrib,
      BitVec.ushiftRight_and_distrib, show 0xffff0000#32 >>> 16 = 0xffff#32 by decide,
      show 0x0000ffff#32 >>> 16 = 0#32 by decide, BitVec.and_zero, BitVec.or_zero, high]
  simp only [configureDmaChannelRegisters, maxNumSg, getEBDMMaxSgEntries, getRBDMMaxSgEntries,
    setPciePacketSize, setDmaConfig, setPciReg, memcopy, pciReg, ChannelDevice.memcopy]
  cases rbdm with
  | false =>
      simp only [Bool.false_eq_true, if_false]
      -- every later write goes to another register
      iterate 11 rw [ChannelDevice.setPciReg_reg_of_ne _ _ (by decide)]
      simp [ChannelDevice.setPciReg, Reg.ebdmNSgConfig, Reg.sgentryCtrl, merge]
  | true =>
      simp only [if_true]
      iterate 8 rw [ChannelDevice.setPciReg_reg_of_ne _ _ (by decide)]
      simp [ChannelDevice.setPciReg, Reg.ebdmNSgConfig, Reg.rbdmNSgConfig, Reg.sgentryCtrl, merge]

theorem bufferSize_configureDmaChannelRegisters (ch : DmaChannel) (eb rb : Buffer)
    (pciePacketSize : Word32) (rbdm : Bool) :
    (ch.configureDmaChannelRegisters eb rb pciePacketSize).1.bufferSize rbdm =
      if rbdm then rb.size else eb.size := by
  cases rbdm with
  | false => exact recombine rfl rfl
  | true => exact recombine rfl rfl

/-- After a successful `configure` the device knows both buffers. -/
theorem knows_configure {page : PageSize} {ch : DmaChannel} {eb rb : MappedBuffer}
    {pciePacketSize : Word32}
    (done : (ch.configure page (some eb.buffer) (some rb.buffer) .toHost pciePacketSize).1 = 0) :
    let ch' := (ch.configure page (some eb.buffer) (some rb.buffer) .toHost pciePacketSize).2
    ch'.Knows false eb ∧ ch'.Knows true rb := by
  have refused : efbig ≠ 0 := by decide
  have ebRead := Buffer.readList_of_read eb.hasList
  have rbRead := Buffer.readList_of_read rb.hasList
  rw [configure_toHost, ebRead, rbRead] at done ⊢
  simp only at done ⊢
  split_ifs at done ⊢ with ebFits rbFits
  · obtain ⟨-, ebLoaded, rbLoaded⟩ := bothStages_rams ebFits rbFits eb.nonempty rb.nonempty
    have frame := (stage_frame page ch false eb.list).trans
      (stage_frame page (writeDescriptors false ch 0 (prepareSgList page eb.list)) true rb.list)
    -- the registers are written after the RAMs, whose capacity they leave
    have capacity := frame.maxNumSg_eq
    refine ⟨⟨?_, ?_⟩, ⟨?_, ?_⟩⟩
    · rw [configureDmaChannelRegisters_rams, maxNumSg_configureDmaChannelRegisters, capacity]
      exact ebLoaded.describes
    · rw [bufferSize_configureDmaChannelRegisters]
      exact eb.buffer.sgList_snd_size
    · rw [configureDmaChannelRegisters_rams, maxNumSg_configureDmaChannelRegisters, capacity]
      exact rbLoaded.describes
    · rw [bufferSize_configureDmaChannelRegisters]
      exact rb.buffer.sgList_snd_size
  · exact absurd done refused
  · exact absurd done refused

/-! ## A run of the device -/

/-- What the transfers leave in a buffer's ring, of those that are for it. -/
def ringAfter (n : Nat) (rbdm : Bool) (cell : Nat → Word8) : List DeviceTransfer → Nat → Word8
  | [] => cell
  | t :: rest =>
      ringAfter n rbdm (if t.rbdm = rbdm then ringStore n cell t.position t.data else cell) rest

theorem ringAfter_congr {n : Nat} {rbdm : Bool} {cell cell' : Nat → Word8}
    (same : ∀ i < n, cell i = cell' i) (transfers : List DeviceTransfer) {i : Nat}
    (inside : i < n) :
    ringAfter n rbdm cell transfers i = ringAfter n rbdm cell' transfers i := by
  induction transfers generalizing cell cell' with
  | nil => exact same i inside
  | cons t rest ih =>
      refine ih ?_
      intro j insideJ
      split
      · exact ringStore_congr same t.position t.data insideJ
      · exact same j insideJ

/-- Where the transfers go, over the two buffers. -/
theorem deviceRun_eq {ch : DmaChannel} {buffers : Bool → MappedBuffer}
    (knows : ∀ rbdm, ch.Knows rbdm (buffers rbdm))
    (apart : ∀ i j, i ≠ j → ∀ p ∈ sgBytes (buffers i).list, p ∉ sgBytes (buffers j).list)
    (mem : Word64 → Word8) (transfers : List DeviceTransfer) :
    ∃ mem', ch.deviceRun mem transfers = some mem' ∧
      (∀ rbdm k, (buffers rbdm).ring.view mem' k =
        ringAfter (buffers rbdm).ring.size rbdm ((buffers rbdm).ring.view mem) transfers
          (k % (buffers rbdm).ring.size)) ∧
      ∀ p, (∀ rbdm, p ∉ sgBytes (buffers rbdm).list) → mem' p = mem p := by
  induction transfers generalizing mem with
  | nil => exact ⟨mem, rfl, fun rbdm k => ((buffers rbdm).ring.view_mod mem k).symm, fun p _ => rfl⟩
  | cons t rest ih =>
      obtain ⟨mem', ran, sees, others⟩ :=
        ih ((buffers t.rbdm).ring.store mem t.position t.data)
      refine ⟨mem', ?_, ?_, ?_⟩
      · rw [deviceRun, (knows t.rbdm).deviceWrite_eq]
        exact ran
      · intro rbdm k
        rw [sees, ringAfter]
        -- a transfer for the other buffer does not reach this one
        by_cases target : t.rbdm = rbdm
        · subst target
          rw [if_pos rfl]
          refine ringAfter_congr ?_ rest (Nat.mod_lt k (buffers t.rbdm).ring.nonempty)
          intro i (inside : i < (buffers t.rbdm).ring.size)
          rw [(buffers t.rbdm).ring.view_store, Nat.mod_eq_of_lt inside]
        · rw [if_neg target, (buffers t.rbdm).ring.view_store_of_disjoint
            (apart rbdm t.rbdm (Ne.symm target))]
      · intro p outside
        rw [others p outside]
        exact (buffers t.rbdm).ring.store_of_notMem mem t.position t.data (outside t.rbdm)

theorem ringAfter_append {n : Nat} (rbdm : Bool) (cell : Nat → Word8)
    (front back : List DeviceTransfer) :
    ringAfter n rbdm cell (front ++ back) =
      ringAfter n rbdm (ringAfter n rbdm cell front) back := by
  induction front generalizing cell with
  | nil => rfl
  | cons t rest ih => exact ih _

/-- What is not overtaken stays as it is loaded. -/
theorem ringLoad_ringAfter_of_undisturbed {n : Nat} {t : DeviceTransfer}
    {later : List DeviceTransfer} (undisturbed : t.Undisturbed n later) (cell : Nat → Word8) :
    ringLoad n (ringAfter n t.rbdm cell later) t.position t.data.length =
      ringLoad n cell t.position t.data.length := by
  induction later generalizing cell with
  | nil => rfl
  | cons u rest ih =>
      rw [ringAfter, ih fun v member => undisturbed v (List.mem_cons_of_mem _ member)]
      split
      · rename_i same
        obtain ⟨behind, near⟩ := undisturbed u List.mem_cons_self same
        exact ringLoad_ringStore_of_behind cell behind near
      · rfl

end DmaChannel

/-- The pieces of a report buffer, and 24 bytes and 8 bytes of an event buffer on
both sides of it. -/
def twoPieceLists (rbdm : Bool) : List ScatterGatherEntry :=
  if rbdm then [⟨0x20000, 32⟩] else [⟨0x30000, 24⟩, ⟨0x10000, 8⟩]

theorem twoPieceLists_translatable (rbdm : Bool) : Translatable (twoPieceLists rbdm) where
  noWrap := by cases rbdm <;> decide
  disjoint := by
    cases rbdm with
    | false =>
        simp [twoPieceLists, ScatterGatherEntry.Covers]
        omega
    | true => exact List.pairwise_singleton _ _

def twoPieceBuffers (rbdm : Bool) : MappedBuffer where
  buffer :=
    if rbdm then Buffer.connect (.sysfs (some [⟨32, 0x20000⟩])) 32
    else Buffer.connect (.sysfs (some [⟨24, 0x30000⟩, ⟨8, 0x10000⟩])) 32
  list := twoPieceLists rbdm
  hasList := by cases rbdm <;> decide
  nonempty := by cases rbdm <;> decide
  nodup := (twoPieceLists_translatable rbdm).nodup
  size_eq := by cases rbdm <;> decide
  size_pos := by cases rbdm <;> decide

theorem twoPieceBuffers_apart (i j : Bool) (ne : i ≠ j) :
    ∀ p ∈ sgBytes (twoPieceBuffers i).list, p ∉ sgBytes (twoPieceBuffers j).list := by
  intro p inI inJ
  have coveredI := (twoPieceLists_translatable i).mem_sgBytes_iff.mp inI
  have coveredJ := (twoPieceLists_translatable j).mem_sgBytes_iff.mp inJ
  revert ne coveredI coveredJ
  cases i <;> cases j <;> simp [twoPieceLists, ScatterGatherEntry.Covers] <;> omega

end Librorc
