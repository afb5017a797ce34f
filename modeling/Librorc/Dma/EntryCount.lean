import Librorc.Dma.Configure

/-!
# The entry counts beside the descriptor RAMs

`configureDmaChannelRegisters` writes the length of the buffer's own list into
`N_SG_CONFIG`; the RAM holds the list after `prepareSgList`. The two differ
exactly when some segment of the buffer's list is too long for one entry. For
a list joined from kernel entries that happens in one place: the joining test
of `coalesceFrom` looks at the length of the entry joined last instead of the
one it is about to take.
-/

namespace Librorc

open Librorc.Lib

namespace DmaChannel

/-! ## What the registers say -/

/-- The registers `configureDmaChannelRegisters` leaves in the two
`N_SG_CONFIG` counts. -/
theorem configureDmaChannelRegisters_counts (ch : DmaChannel) (eb rb : Buffer)
    (pciePacketSize : Word32) :
    let ch' := (ch.configureDmaChannelRegisters eb rb pciePacketSize).1
    ch'.getEBDMNumberOfSgEntries = BitVec.ofNat 32 eb.readList.length &&& 0x0000ffff#32 ∧
      ch'.getRBDMNumberOfSgEntries = BitVec.ofNat 32 rb.readList.length &&& 0x0000ffff#32 := by
  -- the read-only upper half does not show in the masked value
  have merge (old new : Word32) :
      ((old &&& 0xffff0000#32) ||| (new &&& 0x0000ffff#32)) &&& 0x0000ffff#32 =
        new &&& 0x0000ffff#32 := by
    rw [BitVec.and_or_distrib_right, BitVec.and_assoc, BitVec.and_assoc,
      show 0xffff0000#32 &&& 0x0000ffff#32 = 0#32 by decide, BitVec.and_zero, BitVec.zero_or,
      BitVec.and_self]
  have ebCount := eb.getnSGEntries_fst
  have rbCount := rb.getnSGEntries_fst
  simp only [configureDmaChannelRegisters, getEBDMNumberOfSgEntries, getRBDMNumberOfSgEntries,
    setPciePacketSize, setDmaConfig, setPciReg, memcopy, pciReg, ChannelDevice.memcopy, ebCount,
    rbCount]
  constructor
  · iterate 11 rw [ChannelDevice.setPciReg_reg_of_ne _ _ (by decide)]
    simp [ChannelDevice.setPciReg, Reg.ebdmNSgConfig, Reg.sgentryCtrl, merge]
  · iterate 8 rw [ChannelDevice.setPciReg_reg_of_ne _ _ (by decide)]
    simp [ChannelDevice.setPciReg, Reg.ebdmNSgConfig, Reg.rbdmNSgConfig, Reg.sgentryCtrl, merge]

/-- Descriptors pushed to a RAM between two states, without the terminating
entry that comes last. -/
def descriptorsPushed (targetRam : Bool) (before after : DmaChannel) : Nat :=
  ((after.device.rams.sgWrites.drop before.device.rams.sgWrites.length).filter
    (·.toRbdm == targetRam)).dropLast.length

/-- The two counts agree with the two RAMs. -/
def CountsAgree (before after : DmaChannel) : Prop :=
  after.getEBDMNumberOfSgEntries.toNat = descriptorsPushed false before after ∧
    after.getRBDMNumberOfSgEntries.toNat = descriptorsPushed true before after

/-- Counts below 2^16 are not cut by the mask. -/
theorem count_toNat {n : Nat} (small : n < 2 ^ 16) :
    (BitVec.ofNat 32 n &&& 0x0000ffff#32).toNat = n := by
  have mask : (0x0000ffff#32).toNat = 2 ^ 16 - 1 := by decide
  rw [BitVec.toNat_and, mask, Nat.and_two_pow_sub_one_eq_mod, BitVec.toNat_ofNat]
  omega

variable {page : PageSize} {ch : DmaChannel} {eb rb : Buffer} {pciePacketSize : Word32}

/-- After a successful `configure` towards the host the registers count the
buffers' lists and the RAMs the split lists. -/
theorem configure_toHost_counts
    (done : (ch.configure page (some eb) (some rb) .toHost pciePacketSize).1 = 0) :
    let ch' := (ch.configure page (some eb) (some rb) .toHost pciePacketSize).2
    ch'.getEBDMNumberOfSgEntries.toNat = eb.readList.length ∧
      ch'.getRBDMNumberOfSgEntries.toNat = rb.readList.length ∧
      descriptorsPushed false ch ch' = (prepareSgList page eb.readList).length ∧
      descriptorsPushed true ch ch' = (prepareSgList page rb.readList).length := by
  have refused : efbig ≠ 0 := by decide
  have split := fun l => (length_prepareSgList page l).1
  rw [configure_toHost] at done ⊢
  by_cases ebFits : (prepareSgList page eb.readList).length < ch.maxNumSg false
  · by_cases rbFits : (prepareSgList page rb.readList).length < ch.maxNumSg true
    · simp only [if_pos ebFits, if_pos rbFits]
      obtain ⟨ebCount, rbCount⟩ := configureDmaChannelRegisters_counts
        (writeDescriptors true (writeDescriptors false ch 0 (prepareSgList page eb.readList)) 0
          (prepareSgList page rb.readList)) eb.sgList.2 rb.sgList.2 pciePacketSize
      have ebSmall := maxNumSg_lt ch false
      have rbSmall := maxNumSg_lt ch true
      have ebAimed := (stageWrites_aimed false ebSmall ebFits).1
      have rbAimed := (stageWrites_aimed true rbSmall rbFits).1
      rw [ebCount, rbCount, Buffer.sgList_snd_readList, Buffer.sgList_snd_readList,
        count_toNat (by have := split eb.readList; omega),
        count_toNat (by have := split rb.readList; omega)]
      refine ⟨rfl, rfl, ?_, ?_⟩ <;>
        simp only [descriptorsPushed, configureDmaChannelRegisters_rams, stage_rams,
          DescriptorRams.foldl_store_sgWrites, List.append_assoc, List.drop_left,
          List.filter_append]
      · rw [List.filter_eq_self.mpr (by simpa using ebAimed),
          List.filter_eq_nil_iff.mpr (by simpa using rbAimed)]
        simp [stageWrites]
      · rw [List.filter_eq_nil_iff.mpr (by simpa using ebAimed),
          List.filter_eq_self.mpr (by simpa using rbAimed)]
        simp [stageWrites]
    · simp only [if_pos ebFits, if_neg rbFits] at done
      exact absurd done refused
  · simp only [if_neg ebFits] at done
    exact absurd done refused

end DmaChannel

/-! ## Which lists are split -/

/-- Along the joining loop, no entry is taken that makes the joined length
leave 32 bits: whatever passes the loop's test on `sglist[i]` would also have
passed it on `sglist[i+1]`. -/
def JoinsStayShort (entry : ScatterGatherEntry) (last : Scatter) : List Scatter → Prop
  | [] => True
  | next :: rest =>
      if joins entry last next then
        (entry.length + next.length.setWidth 64).toNat < 2 ^ 32 ∧
          JoinsStayShort { entry with length := entry.length + next.length.setWidth 64 } next rest
      else JoinsStayShort ⟨next.dmaAddress, next.length.setWidth 64⟩ next rest

/-- The lists that need no splitting, in terms of what the kernel provides. -/
def SgSource.StaysShort : SgSource → Prop
  | .pda nodes => ∀ l, nodes = some l → ∀ e ∈ l, e.length.toNat < 2 ^ 32
  | .sysfs (some (first :: rest)) =>
      JoinsStayShort ⟨first.dmaAddress, first.length.setWidth 64⟩ first rest
  | .sysfs _ => True

/-- One kernel entry always fits 32 bits. -/
theorem setWidth_length_toNat (x : Word32) : (x.setWidth 64).toNat = x.toNat := by
  rw [BitVec.toNat_setWidth]
  exact Nat.mod_eq_of_lt (by have := x.isLt; omega)

theorem length_add_toNat {length : Word64} (short : length.toNat < 2 ^ 33) (x : Word32) :
    (length + x.setWidth 64).toNat = length.toNat + x.toNat := by
  rw [BitVec.toNat_add, setWidth_length_toNat]
  exact Nat.mod_eq_of_lt (by have := x.isLt; omega)

/-- A segment that has grown too long takes nothing more. -/
theorem mem_coalesceFrom_of_long {entry : ScatterGatherEntry} (long : 2 ^ 32 ≤ entry.length.toNat)
    (bounded : entry.length.toNat < 2 ^ 33) (last : Scatter) (rest : List Scatter) :
    entry ∈ coalesceFrom entry last rest := by
  cases rest with
  | nil => simp [coalesceFrom]
  | cons next rest =>
      have stop : joins entry last next = false := by
        have sum := length_add_toNat bounded last.length
        simp only [joins, Bool.and_eq_false_iff, decide_eq_false_iff_not, BitVec.lt_def, sum]
        right
        simp
        omega
      rw [coalesceFrom, stop]
      simp

theorem coalesceFrom_short_iff {entry : ScatterGatherEntry}
    (short : entry.length.toNat < 2 ^ 32) (last : Scatter) (rest : List Scatter) :
    (∀ e ∈ coalesceFrom entry last rest, e.length.toNat < 2 ^ 32) ↔
      JoinsStayShort entry last rest := by
  induction rest generalizing entry last with
  | nil => simpa [coalesceFrom, JoinsStayShort] using short
  | cons next rest ih =>
      have sum := length_add_toNat (show entry.length.toNat < 2 ^ 33 by omega) next.length
      have nextLt := next.length.isLt
      rw [coalesceFrom, JoinsStayShort]
      split
      · by_cases fits : (entry.length + next.length.setWidth 64).toNat < 2 ^ 32
        · rw [ih fits]
          exact (and_iff_right fits).symm
        · have long : { entry with length := entry.length + next.length.setWidth 64 } ∈
              coalesceFrom { entry with length := entry.length + next.length.setWidth 64 } next
                rest :=
            mem_coalesceFrom_of_long (by simp only; omega) (by simp only; omega) next rest
          exact iff_of_false (fun all => fits (all _ long)) fun both => fits both.1
      · rw [List.forall_mem_cons, ih (by rw [setWidth_length_toNat]; exact nextLt),
          and_iff_right short]

/-- The buffer's list needs no splitting exactly when its source provides it
short. -/
theorem readList_short_iff (b : Buffer) :
    (∀ e ∈ b.readList, e.length.toNat < 2 ^ 32) ↔ b.source.StaysShort := by
  rw [Buffer.readList]
  rcases b.source with (_ | nodes) | (_ | _ | ⟨first, rest⟩)
  · simp [SgSource.read, SgSource.StaysShort]
  · simp [SgSource.read, SgSource.StaysShort]
  · simp [SgSource.read, SgSource.StaysShort]
  · simp [SgSource.read, SgSource.StaysShort, coalesce]
  · exact coalesceFrom_short_iff (by rw [setWidth_length_toNat]; exact first.length.isLt) first rest

theorem joinsStayShort_of_sorted {entry : ScatterGatherEntry}
    (short : entry.length.toNat < 2 ^ 32) {last : Scatter} {rest : List Scatter}
    (sorted : (last :: rest).Pairwise fun s t => t.length ≤ s.length) :
    JoinsStayShort entry last rest := by
  induction rest generalizing entry last with
  | nil => trivial
  | cons next rest ih =>
      rw [List.pairwise_cons] at sorted
      have small : entry.length.toNat < 2 ^ 33 := by omega
      rw [JoinsStayShort]
      split
      · rename_i test
        have shrinks := BitVec.le_def.mp (sorted.1 next List.mem_cons_self)
        have passed : entry.length.toNat + last.length.toNat < 0xffffffff := by
          simp only [joins, Bool.and_eq_true, decide_eq_true_eq, BitVec.lt_def,
            length_add_toNat small] at test
          simpa using test.2
        have fits : (entry.length + next.length.setWidth 64).toNat < 2 ^ 32 := by
          rw [length_add_toNat small]
          omega
        exact ⟨fits, ih fits sorted.2⟩
      · exact ih (by rw [setWidth_length_toNat]; exact next.length.isLt) sorted.2

/-- Lists whose entries do not grow (uniform pages among them) are never joined
too long. -/
theorem staysShort_of_sorted {sglist : List Scatter}
    (sorted : sglist.Pairwise fun s t => t.length ≤ s.length) :
    (SgSource.sysfs (some sglist)).StaysShort := by
  cases sglist with
  | nil => trivial
  | cons first rest =>
      have short : (first.length.setWidth 64).toNat < 2 ^ 32 := by
        rw [setWidth_length_toNat]
        exact first.length.isLt
      exact joinsStayShort_of_sorted short sorted

/-- Two adjoining kernel entries, 4 KiB and 4 GiB less 4 KiB. -/
def overlongBuffer : Buffer :=
  Buffer.connect (.sysfs (some [⟨0x1000, 0x10000000⟩, ⟨0xfffff000, 0x10001000⟩])) 0x100000000

end Librorc
