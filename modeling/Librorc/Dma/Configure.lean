import Librorc.Dma.DescriptorRam

/-!
# `dma_channel::configure`

Two RAM stages and a block of register writes. Each stage either refuses the
list or leaves a `LoadedRam`; the register writes never reach the RAMs, and
the pushes never reach the registers below `SGENTRY_ADDR_LOW`.
-/

namespace Librorc

open Librorc.Lib

/-- What the firmware finds in a RAM: the entries up to the first one of
length zero. -/
def readRam (ram : Nat → RamEntry) (maxNumSg : Nat) : Option (List RamEntry) :=
  readTable (fun e => e.len == 0) ram maxNumSg 0

/-- A RAM describes `bytes`: the entries found there cover these addresses,
in this order. -/
def RamDescribes (ram : Nat → RamEntry) (maxNumSg : Nat) (bytes : List Word64) : Prop :=
  ∃ entries, readRam ram maxNumSg = some entries ∧ segBytes (entries.map RamEntry.seg) = bytes

/-- A RAM that was loaded by `writes`. -/
structure LoadedRam (targetRam : Bool) (maxNumSg : Nat) (bytes : List Word64)
    (writes : List SgWrite) (ram : Nat → RamEntry) : Prop where
  describes : RamDescribes ram maxNumSg bytes
  aimed : ∀ w ∈ writes, w.toRbdm = targetRam
  below : ∀ w ∈ writes, w.ramAddr < maxNumSg
  distinct : (writes.map SgWrite.ramAddr).Nodup

namespace DmaChannel

/-- The capacity `configureBufferDescriptorRam` checks against. -/
def maxNumSg (ch : DmaChannel) (targetRam : Bool) : Nat :=
  (if targetRam then ch.getRBDMMaxSgEntries else ch.getEBDMMaxSgEntries).toNat

theorem maxNumSg_lt (ch : DmaChannel) (targetRam : Bool) : ch.maxNumSg targetRam < 2 ^ 16 := by
  cases targetRam <;>
    simp only [maxNumSg, getRBDMMaxSgEntries, getEBDMMaxSgEntries, BitVec.toNat_ushiftRight,
      Nat.shiftRight_eq_div_pow, if_true, Bool.false_eq_true, if_false] <;>
    omega

theorem SgFrame.maxNumSg_eq {ch ch' : DmaChannel} (frame : SgFrame ch ch') (targetRam : Bool) :
    ch'.maxNumSg targetRam = ch.maxNumSg targetRam := by
  simp only [maxNumSg, getRBDMMaxSgEntries, getEBDMMaxSgEntries, pciReg,
    frame.reg Reg.ebdmNSgConfig (by decide), frame.reg Reg.rbdmNSgConfig (by decide)]

/-- A stage whose list fits … -/
theorem configureBufferDescriptorRam_fits (page : PageSize) {ch : DmaChannel} {buf : Buffer}
    {targetRam : Bool}
    (fits : (prepareSgList page buf.readList).length < ch.maxNumSg targetRam) :
    ch.configureBufferDescriptorRam page buf targetRam =
      (0, writeDescriptors targetRam ch 0 (prepareSgList page buf.readList), buf.sgList.2) := by
  rw [← buf.sgList_fst] at fits ⊢
  exact if_neg (Nat.not_le.mpr fits)

/-- … and one whose list does not. -/
theorem configureBufferDescriptorRam_refused (page : PageSize) {ch : DmaChannel} {buf : Buffer}
    {targetRam : Bool}
    (tooMany : ¬(prepareSgList page buf.readList).length < ch.maxNumSg targetRam) :
    ch.configureBufferDescriptorRam page buf targetRam = (efbig, ch, buf.sgList.2) := by
  rw [← buf.sgList_fst] at tooMany
  exact if_pos (Nat.not_lt.mp tooMany)

/-! ## One stage -/

variable {page : PageSize} {ch : DmaChannel} {targetRam : Bool} {l : List ScatterGatherEntry}

/-- The pushes of one stage. -/
def stageWrites (page : PageSize) (targetRam : Bool) (l : List ScatterGatherEntry) :
    List SgWrite :=
  descriptorWrites targetRam 0 (prepareSgList page l)

theorem stage_rams (page : PageSize) (ch : DmaChannel) (targetRam : Bool)
    (l : List ScatterGatherEntry) :
    (writeDescriptors targetRam ch 0 (prepareSgList page l)).device.rams =
      (stageWrites page targetRam l).foldl DescriptorRams.store ch.device.rams :=
  (writeDescriptors_spec targetRam ch 0 (prepareSgList page l)).2

theorem stage_frame (page : PageSize) (ch : DmaChannel) (targetRam : Bool)
    (l : List ScatterGatherEntry) :
    SgFrame ch (writeDescriptors targetRam ch 0 (prepareSgList page l)) :=
  (writeDescriptors_spec targetRam ch 0 (prepareSgList page l)).1

theorem stageWrites_aimed (targetRam : Bool) {maxNumSg : Nat} (small : maxNumSg < 2 ^ 16)
    (fits : (prepareSgList page l).length < maxNumSg) :
    (∀ w ∈ stageWrites page targetRam l, w.toRbdm = targetRam) ∧
      (stageWrites page targetRam l).map SgWrite.ramAddr =
        List.range' 0 (stageWrites page targetRam l).length := by
  rw [stageWrites, length_descriptorWrites]
  exact descriptorWrites_aimed targetRam (by simp; omega)

/-- Short pieces are described by their RAM entries. -/
theorem ramEntry_seg {e : ScatterGatherEntry} (short : e.length.toNat < 2 ^ 32) :
    e.ramEntry.seg = e.seg := by
  simp [ScatterGatherEntry.ramEntry, RamEntry.seg, ScatterGatherEntry.seg, lowWord_toNat short]

theorem ramEntry_segs {pieces : List ScatterGatherEntry}
    (short : ∀ e ∈ pieces, e.length.toNat < 2 ^ 32) :
    segBytes ((pieces.map ScatterGatherEntry.ramEntry).map RamEntry.seg) = sgBytes pieces := by
  have same : (pieces.map ScatterGatherEntry.ramEntry).map RamEntry.seg = sgSegs pieces := by
    rw [List.map_map]
    exact List.map_congr_left fun e member => ramEntry_seg (short e member)
  rw [same, sgBytes]

/-- A list that fits is found in the RAM again, entry for entry. -/
theorem stage_loads {maxNumSg : Nat} (small : maxNumSg < 2 ^ 16)
    (fits : (prepareSgList page l).length < maxNumSg) (nonempty : ∀ e ∈ l, e.length ≠ 0)
    (rams : DescriptorRams) :
    LoadedRam targetRam maxNumSg (sgBytes l) (stageWrites page targetRam l)
      (((stageWrites page targetRam l).foldl DescriptorRams.store rams).ram targetRam) := by
  obtain ⟨aimed, consecutive⟩ := stageWrites_aimed targetRam small fits
  have short := prepareSgList_short page l
  refine ⟨⟨(prepareSgList page l).map ScatterGatherEntry.ramEntry, ?_, ?_⟩, aimed, ?_, ?_⟩
  · rw [readRam, DescriptorRams.foldl_store_ram rams aimed consecutive]
    rw [stageWrites, descriptorWrites_entry]
    refine readTable_storeFrom _ _ (by simpa using fits) (by decide) ?_
    intro e member
    obtain ⟨piece, inList, rfl⟩ := List.mem_map.mp member
    -- no piece is mistaken for the terminator
    have proper := prepareSgList_nonempty page nonempty piece inList
    simp only [ScatterGatherEntry.ramEntry, beq_eq_false_iff_ne, ne_eq]
    intro zero
    refine proper (BitVec.eq_of_toNat_eq ?_)
    rw [← lowWord_toNat (short piece inList), zero]
    rfl
  · rw [ramEntry_segs short, prepareSgList_bytes]
  · intro w member
    have address : w.ramAddr ∈ (stageWrites page targetRam l).map SgWrite.ramAddr :=
      List.mem_map_of_mem member
    rw [consecutive, stageWrites, length_descriptorWrites, List.mem_range'_1] at address
    omega
  · rw [consecutive]
    exact List.nodup_range'

/-! ## Both stages -/

theorem configureDmaChannelRegisters_rams (ch : DmaChannel) (eb rb : Buffer)
    (pciePacketSize : Word32) :
    (ch.configureDmaChannelRegisters eb rb pciePacketSize).1.device.rams = ch.device.rams := by
  simp only [configureDmaChannelRegisters, setPciePacketSize, setDmaConfig, setPciReg, memcopy]
  rw [ChannelDevice.setPciReg_rams _ _ (by decide), ChannelDevice.setPciReg_rams _ _ (by decide),
    ChannelDevice.memcopy_rams _ (by simp [Reg.ebdmNSgConfig, Reg.sgentryCtrl])]

/-- `configure` towards the host: two stages, then the registers. -/
theorem configure_toHost (page : PageSize) (ch : DmaChannel) (eb rb : Buffer)
    (pciePacketSize : Word32) :
    ch.configure page (some eb) (some rb) .toHost pciePacketSize =
      let ebLoaded := writeDescriptors false ch 0 (prepareSgList page eb.readList)
      if (prepareSgList page eb.readList).length < ch.maxNumSg false then
        if (prepareSgList page rb.readList).length < ch.maxNumSg true then
          (0, ((writeDescriptors true ebLoaded 0 (prepareSgList page rb.readList)
            ).configureDmaChannelRegisters eb.sgList.2 rb.sgList.2 pciePacketSize).1)
        else (efbig, ebLoaded)
      else (efbig, ch) := by
  by_cases ebFits : (prepareSgList page eb.readList).length < ch.maxNumSg false
  · have capacity := (stage_frame page ch false eb.readList).maxNumSg_eq true
    simp only [configure, configureBufferDescriptorRam_fits page ebFits, if_pos ebFits]
    by_cases rbFits : (prepareSgList page rb.readList).length < ch.maxNumSg true
    · rw [configureBufferDescriptorRam_fits page (capacity ▸ rbFits), if_pos rbFits]
      rfl
    · rw [configureBufferDescriptorRam_refused page (capacity ▸ rbFits), if_neg rbFits]
      rfl
  · simp only [configure, configureBufferDescriptorRam_refused page ebFits, if_neg ebFits]
    rfl

/-- `configure` towards the device: only the report buffer is loaded. -/
theorem configure_toDevice (page : PageSize) (ch : DmaChannel) (eb rb : Buffer)
    (pciePacketSize : Word32) :
    ch.configure page (some eb) (some rb) .toDevice pciePacketSize =
      let sized := { ch with outFifoDepth := ch.readOutFifoDepth }
      if (prepareSgList page rb.readList).length < ch.maxNumSg true then
        (0, ((writeDescriptors true sized 0 (prepareSgList page rb.readList)
          ).configureDmaChannelRegisters eb rb.sgList.2 pciePacketSize).1)
      else (efbig, sized) := by
  have capacity : { ch with outFifoDepth := ch.readOutFifoDepth }.maxNumSg true =
    ch.maxNumSg true := rfl
  simp only [configure]
  by_cases rbFits : (prepareSgList page rb.readList).length < ch.maxNumSg true
  · rw [configureBufferDescriptorRam_fits page (capacity ▸ rbFits), if_pos rbFits]
    rfl
  · rw [configureBufferDescriptorRam_refused page (capacity ▸ rbFits), if_neg rbFits]
    rfl

/-- What a refused `configure` leaves behind: the registers as they were, and
nothing pushed to the RAM whose list was refused. -/
structure Refused (offending : Bool) (before after : DmaChannel) : Prop where
  frame : SgFrame before after
  ram : after.device.rams.ram offending = before.device.rams.ram offending
  pushes : ∃ writes, after.device.rams.sgWrites = before.device.rams.sgWrites ++ writes ∧
    ∀ w ∈ writes, w.toRbdm ≠ offending

theorem Refused.refl (offending : Bool) (ch : DmaChannel) : Refused offending ch ch :=
  ⟨SgFrame.refl ch, rfl, [], by simp, by simp⟩

/-- The RAMs after both stages: each holds what its own stage pushed. -/
theorem bothStages_rams {ch : DmaChannel} {el rl : List ScatterGatherEntry}
    (ebFits : (prepareSgList page el).length < ch.maxNumSg false)
    (rbFits : (prepareSgList page rl).length < ch.maxNumSg true)
    (ebNonempty : ∀ e ∈ el, e.length ≠ 0) (rbNonempty : ∀ e ∈ rl, e.length ≠ 0) :
    let ebLoaded := writeDescriptors false ch 0 (prepareSgList page el)
    let rams := (writeDescriptors true ebLoaded 0 (prepareSgList page rl)).device.rams
    rams.sgWrites = ch.device.rams.sgWrites ++ stageWrites page false el ++
        stageWrites page true rl ∧
      LoadedRam false (ch.maxNumSg false) (sgBytes el) (stageWrites page false el)
        (rams.ram false) ∧
      LoadedRam true (ch.maxNumSg true) (sgBytes rl) (stageWrites page true rl)
        (rams.ram true) := by
  have rbAimed := (stageWrites_aimed true (maxNumSg_lt ch true) rbFits).1
  simp only [stage_rams]
  refine ⟨?_, ?_, stage_loads (maxNumSg_lt ch true) rbFits rbNonempty _⟩
  · rw [DescriptorRams.foldl_store_sgWrites, DescriptorRams.foldl_store_sgWrites]
  · -- the second stage leaves the event buffer RAM alone
    rw [DescriptorRams.foldl_store_ram_of_ne _ rbAimed Bool.noConfusion]
    exact stage_loads (maxNumSg_lt ch false) ebFits ebNonempty _

/-- A refused report buffer list leaves only what the first stage pushed to the
other RAM. -/
theorem refused_secondStage (ch : DmaChannel) {el : List ScatterGatherEntry}
    (ebFits : (prepareSgList page el).length < ch.maxNumSg false) :
    Refused true ch (writeDescriptors false ch 0 (prepareSgList page el)) := by
  have ebAimed := (stageWrites_aimed false (maxNumSg_lt ch false) ebFits).1
  refine ⟨stage_frame page ch false el, ?_, stageWrites page false el, ?_, ?_⟩
  · rw [stage_rams, DescriptorRams.foldl_store_ram_of_ne _ ebAimed Bool.noConfusion]
  · rw [stage_rams, DescriptorRams.foldl_store_sgWrites]
  · intro w member
    rw [ebAimed w member]
    exact Bool.false_ne_true

end DmaChannel

open DmaChannel in
/-- **Descriptor RAM programming.** `configure` succeeds exactly when every
list it has to load fits after splitting. On success the RAMs describe the
buffers byte for byte, each loaded by pushes of its own to distinct addresses
below the capacity; on failure it returns `EFBIG`, the refused list is not
pushed and no register outside the `SGENTRY` block changes. -/
theorem configure_programs_rams (page : PageSize) (ch : DmaChannel) (eb rb : Buffer)
    (el rl : List ScatterGatherEntry) (hasEb : eb.source.read = some el)
    (hasRb : rb.source.read = some rl) (ebNonempty : ∀ e ∈ el, e.length ≠ 0)
    (rbNonempty : ∀ e ∈ rl, e.length ≠ 0) (dir : EventStreamDirection)
    (pciePacketSize : Word32) :
    let r := ch.configure page (some eb) (some rb) dir pciePacketSize
    let ebFits := dir = .toHost → (prepareSgList page el).length < ch.maxNumSg false
    let rbFits := (prepareSgList page rl).length < ch.maxNumSg true
    (r.1 = 0 ↔ ebFits ∧ rbFits) ∧
    (r.1 = 0 → ∃ ebWrites rbWrites,
      r.2.device.rams.sgWrites = ch.device.rams.sgWrites ++ ebWrites ++ rbWrites ∧
      (dir = .toHost →
        LoadedRam false (ch.maxNumSg false) (sgBytes el) ebWrites (r.2.device.rams.ram false)) ∧
      (dir = .toDevice →
        ebWrites = [] ∧ r.2.device.rams.ram false = ch.device.rams.ram false) ∧
      LoadedRam true (ch.maxNumSg true) (sgBytes rl) rbWrites (r.2.device.rams.ram true)) ∧
    (r.1 ≠ 0 → r.1 = efbig ∧
      (¬ebFits → Refused false ch r.2) ∧ (¬rbFits → Refused true ch r.2)) := by
  have refused : efbig ≠ 0 := by decide
  have ebRead := Buffer.readList_of_read hasEb
  have rbRead := Buffer.readList_of_read hasRb
  cases dir with
  | toHost =>
      simp only [configure_toHost, ebRead, rbRead, forall_const, reduceCtorEq, false_implies,
        true_and]
      by_cases ebFits : (prepareSgList page el).length < ch.maxNumSg false
      · by_cases rbFits : (prepareSgList page rl).length < ch.maxNumSg true
        · obtain ⟨pushes, ebLoaded, rbLoaded⟩ :=
            bothStages_rams ebFits rbFits ebNonempty rbNonempty
          simp only [if_pos ebFits, if_pos rbFits, configureDmaChannelRegisters_rams]
          refine ⟨by simp [ebFits, rbFits], ?_, ?_⟩
          · intro _
            exact ⟨_, _, pushes, ebLoaded, rbLoaded⟩
          · intro failed
            exact absurd rfl failed
        · simp only [if_pos ebFits, if_neg rbFits]
          refine ⟨by simp [refused, rbFits], ?_, ?_⟩
          · intro done
            exact absurd done refused
          · intro _
            exact ⟨trivial, fun tooMany => absurd ebFits tooMany,
              fun _ => refused_secondStage ch ebFits⟩
      · simp only [if_neg ebFits]
        refine ⟨by simp [refused, ebFits], ?_, ?_⟩
        · intro done
          exact absurd done refused
        · intro _
          exact ⟨trivial, fun _ => Refused.refl _ _, fun _ => Refused.refl _ _⟩
  | toDevice =>
      simp only [configure_toDevice, rbRead, reduceCtorEq, false_implies, true_and,
        forall_const, not_true_eq_false]
      by_cases rbFits : (prepareSgList page rl).length < ch.maxNumSg true
      · have rbAimed := (stageWrites_aimed true (maxNumSg_lt ch true) rbFits).1
        simp only [if_pos rbFits, configureDmaChannelRegisters_rams, stage_rams]
        refine ⟨by simp [rbFits], ?_, ?_⟩
        · intro _
          refine ⟨[], stageWrites page true rl, ?_, ⟨rfl, ?_⟩,
            stage_loads (maxNumSg_lt ch true) rbFits rbNonempty _⟩
          · rw [DescriptorRams.foldl_store_sgWrites, List.append_nil]
          · rw [DescriptorRams.foldl_store_ram_of_ne _ rbAimed Bool.noConfusion]
        · intro failed
          exact absurd rfl failed
      · simp only [if_neg rbFits]
        refine ⟨by simp [refused, rbFits], ?_, ?_⟩
        · intro done
          exact absurd done refused
        · intro _
          -- only the FIFO depth has been read
          refine ⟨trivial, fun _ => ⟨⟨?_, rfl, rfl, rfl, rfl⟩, rfl, [], by simp, by simp⟩⟩
          intro addr _
          rfl

/-- A channel with room for 16 entries in each RAM. -/
def sixteenEntryChannel : DmaChannel where
  device := ⟨fun addr => if addr = 0 ∨ addr = 3 then 0x00100000 else 0, fun _ _ => ⟨0, 0⟩, []⟩
  linkNumber := 1
  lastEbdmOffset := 0
  lastRbdmOffset := 0
  outFifoDepth := 0

/-- A buffer in one segment. -/
def oneSegmentBuffer (pointer : Word64) (length : Word32) : Buffer :=
  Buffer.connect (.sysfs (some [⟨length, pointer⟩])) (length.setWidth 64)

/-- Five entries of the kernel: two pages that are joined, a page that is joined
with 4 GiB less a page, and one by itself. -/
def threeSegmentBuffer : Buffer :=
  Buffer.connect (.sysfs (some [⟨0x1000, 0x20000⟩, ⟨0x1000, 0x21000⟩, ⟨0x1000, 0x10000000⟩,
    ⟨0xfffff000, 0x10001000⟩, ⟨0x1000, 0x8000⟩])) 0x100003000

/-- Pages, the first two of them joined. -/
def twoSegmentBuffer : Buffer :=
  Buffer.connect (.sysfs (some [⟨0x1000, 0x40000⟩, ⟨0x1000, 0x41000⟩, ⟨0x1000, 0x50000⟩])) 0x3000

/-- The segment of 4 GiB is split, and each RAM describes its buffer. -/
theorem configure_programs_rams_joined :
    let r := sixteenEntryChannel.configure .fourKiB (some threeSegmentBuffer)
      (some twoSegmentBuffer) .toHost 256
    ∃ ebWrites rbWrites,
      LoadedRam false 16
        (sgBytes [⟨0x20000, 0x2000⟩, ⟨0x10000000, 0x100000000⟩, ⟨0x8000, 0x1000⟩]) ebWrites
        (r.2.device.rams.ram false) ∧
      LoadedRam true 16 (sgBytes [⟨0x40000, 0x2000⟩, ⟨0x50000, 0x1000⟩]) rbWrites
        (r.2.device.rams.ram true) := by
  obtain ⟨fits, loaded, -⟩ := configure_programs_rams .fourKiB sixteenEntryChannel
    threeSegmentBuffer twoSegmentBuffer
    [⟨0x20000, 0x2000⟩, ⟨0x10000000, 0x100000000⟩, ⟨0x8000, 0x1000⟩]
    [⟨0x40000, 0x2000⟩, ⟨0x50000, 0x1000⟩] rfl rfl (by decide) (by decide) .toHost 256
  obtain ⟨ebWrites, rbWrites, -, ebLoaded, -, rbLoaded⟩ :=
    loaded (fits.mpr ⟨fun _ => by decide, by decide⟩)
  exact ⟨ebWrites, rbWrites, ebLoaded rfl, rbLoaded⟩

end Librorc
