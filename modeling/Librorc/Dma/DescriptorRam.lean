import Librorc.Dma.Channel
import Librorc.Lib.Table

/-!
# Programming the buffer descriptor RAMs

Three steps lead from a buffer's list to the RAM: `prepareSgList` splits long
segments, `configureBufferDescriptorRam` checks the fit and writes one entry
per address, and the firmware reads the RAM up to the first empty entry. Each
step keeps the bytes described; the pushes are collected in
`descriptorWrites`, so that the RAM and the push history follow from one list.
-/

namespace Librorc

open Librorc.Lib

/-! ## Splitting -/

namespace DmaChannel

variable {page : PageSize}

theorem fourGiB_sub_page_eq_cast (page : PageSize) :
    (1#64 <<< 32) - page.word = ((2 ^ 32 - page.bytes : ℕ) : Word64) := by
  apply BitVec.eq_of_toNat_eq
  rw [PageSize.fourGiB_sub_word_toNat, BitVec.natCast_eq_ofNat, BitVec.toNat_ofNat,
    Nat.mod_eq_of_lt (by omega)]

theorem shiftRight_32_ne_zero_iff {x : Word64} : x >>> 32 ≠ 0 ↔ 2 ^ 32 ≤ x.toNat := by
  rw [ne_eq, shiftRight_32_eq_zero_iff, Nat.not_lt]

/-- What one turn of the splitting loop leaves over. -/
theorem rest_toNat {x : Word64} (long : 2 ^ 32 ≤ x.toNat) :
    (x - ((1#64 <<< 32) - page.word)).toNat = x.toNat - (2 ^ 32 - page.bytes) := by
  have chunk := page.fourGiB_sub_word_toNat
  rw [BitVec.toNat_sub_of_le (by rw [BitVec.le_def, chunk]; omega), chunk]

theorem splitSegment_bytes (fuel : Nat) (curOffset remSize : Word64) :
    sgBytes (splitSegment page fuel curOffset remSize) = Seg.bytes ⟨curOffset, remSize.toNat⟩ := by
  induction fuel generalizing curOffset remSize with
  | zero => simp [splitSegment, ScatterGatherEntry.seg]
  | succ fuel ih =>
      rw [splitSegment]
      split
      · rename_i long
        have long := shiftRight_32_ne_zero_iff.mp long
        have cut : remSize.toNat = (2 ^ 32 - page.bytes) +
            (remSize.toNat - (2 ^ 32 - page.bytes)) := by omega
        rw [sgBytes_cons, ih, rest_toNat long, ScatterGatherEntry.seg,
          PageSize.fourGiB_sub_word_toNat, fourGiB_sub_page_eq_cast]
        conv_rhs => rw [cut]
        rw [Seg.bytes_split]
      · simp [ScatterGatherEntry.seg]

/-- With enough turns every piece fits the 32-bit length register. -/
theorem splitSegment_short {fuel : Nat} {curOffset remSize : Word64}
    (enough : remSize.toNat ≤ fuel) :
    ∀ e ∈ splitSegment page fuel curOffset remSize, e.length.toNat < 2 ^ 32 := by
  have small := page.bytes_le
  have positive := page.bytes_pos
  induction fuel generalizing curOffset remSize with
  | zero => simpa [splitSegment] using by omega
  | succ fuel ih =>
      rw [splitSegment]
      split
      · rename_i long
        have long := shiftRight_32_ne_zero_iff.mp long
        intro e member
        rcases List.mem_cons.mp member with rfl | member
        · rw [PageSize.fourGiB_sub_word_toNat]
          omega
        · exact ih (by rw [rest_toNat long]; omega) e member
      · rename_i short
        have short := mt shiftRight_32_ne_zero_iff.mpr short
        simpa using by omega

theorem splitSegment_nonempty {fuel : Nat} {curOffset remSize : Word64}
    (nonempty : remSize ≠ 0) :
    ∀ e ∈ splitSegment page fuel curOffset remSize, e.length ≠ 0 := by
  have small := page.bytes_le
  have positive := page.bytes_pos
  have nonzero {x : Word64} (h : 0 < x.toNat) : x ≠ 0 := by
    rintro rfl
    simp at h
  induction fuel generalizing curOffset remSize with
  | zero => simpa [splitSegment] using nonempty
  | succ fuel ih =>
      rw [splitSegment]
      split
      · rename_i long
        have long := shiftRight_32_ne_zero_iff.mp long
        intro e member
        rcases List.mem_cons.mp member with rfl | member
        · exact nonzero (by rw [PageSize.fourGiB_sub_word_toNat]; omega)
        · exact ih (nonzero (by rw [rest_toNat long]; omega)) e member
      · simpa using nonempty

theorem splitSegment_short_eq (page : PageSize) (curOffset : Word64) {remSize : Word64}
    (short : remSize.toNat < 2 ^ 32) :
    splitSegment page remSize.toNat curOffset remSize = [⟨curOffset, remSize⟩] := by
  have noShift : ¬remSize >>> 32 ≠ 0 := mt shiftRight_32_ne_zero_iff.mp (Nat.not_le.mpr short)
  cases remSize.toNat with
  | zero => rfl
  | succ fuel => rw [splitSegment, if_neg noShift]

/-- Short segments stay whole; long ones become two pieces or more. -/
theorem length_splitSegment (page : PageSize) (curOffset remSize : Word64) :
    1 ≤ (splitSegment page remSize.toNat curOffset remSize).length ∧
      ((splitSegment page remSize.toNat curOffset remSize).length = 1 ↔
        remSize.toNat < 2 ^ 32) := by
  have atLeastOne (fuel : Nat) (cur rem : Word64) :
      1 ≤ (splitSegment page fuel cur rem).length := by
    cases fuel with
    | zero => simp [splitSegment]
    | succ fuel => rw [splitSegment]; split <;> simp
  refine ⟨atLeastOne _ _ _, ?_⟩
  by_cases long : 2 ^ 32 ≤ remSize.toNat
  · obtain ⟨fuel, fuelEq⟩ : ∃ n, remSize.toNat = n + 1 := ⟨remSize.toNat - 1, by omega⟩
    have more := atLeastOne fuel (curOffset + ((1#64 <<< 32) - page.word))
      (remSize - ((1#64 <<< 32) - page.word))
    rw [fuelEq, splitSegment, if_pos (shiftRight_32_ne_zero_iff.mpr long), List.length_cons]
    omega
  · simp only [splitSegment_short_eq page curOffset (Nat.not_le.mp long), List.length_singleton,
      true_iff]
    omega

theorem prepareSgList_cons (e : ScatterGatherEntry) (l : List ScatterGatherEntry) :
    prepareSgList page (e :: l) =
      splitSegment page e.length.toNat e.pointer e.length ++ prepareSgList page l := rfl

/-- Splitting keeps the described bytes. -/
theorem prepareSgList_bytes (l : List ScatterGatherEntry) :
    sgBytes (prepareSgList page l) = sgBytes l := by
  induction l with
  | nil => rfl
  | cons e rest ih =>
      rw [prepareSgList_cons, sgBytes_append, ih, splitSegment_bytes, sgBytes_cons,
        ScatterGatherEntry.seg]

theorem prepareSgList_short (page : PageSize) (l : List ScatterGatherEntry) :
    ∀ e ∈ prepareSgList page l, e.length.toNat < 2 ^ 32 := by
  intro e member
  obtain ⟨whole, -, piece⟩ := List.mem_flatMap.mp member
  exact splitSegment_short (Nat.le_refl _) e piece

theorem prepareSgList_nonempty (page : PageSize) {l : List ScatterGatherEntry}
    (nonempty : ∀ e ∈ l, e.length ≠ 0) :
    ∀ e ∈ prepareSgList page l, e.length ≠ 0 := by
  intro e member
  obtain ⟨whole, inList, piece⟩ := List.mem_flatMap.mp member
  exact splitSegment_nonempty (nonempty whole inList) e piece

/-- Splitting adds entries exactly when some segment does not fit 32 bits. -/
theorem length_prepareSgList (page : PageSize) (l : List ScatterGatherEntry) :
    l.length ≤ (prepareSgList page l).length ∧
      ((prepareSgList page l).length = l.length ↔ ∀ e ∈ l, e.length.toNat < 2 ^ 32) := by
  induction l with
  | nil => simp [prepareSgList]
  | cons e rest ih =>
      obtain ⟨atLeast, same⟩ := ih
      obtain ⟨one, whole⟩ := length_splitSegment page e.pointer e.length
      rw [prepareSgList_cons, List.length_append, List.length_cons, List.forall_mem_cons,
        ← whole, ← same]
      constructor <;> omega

end DmaChannel

/-! ## Pushing a list

The pushes of one RAM form a list of their own; the RAM afterwards, the push
history and the other RAM all follow from it. -/

def ScatterGatherEntry.ramEntry (e : ScatterGatherEntry) : RamEntry :=
  ⟨e.pointer, DmaChannel.lowWord e.length⟩

/-- The segment a RAM entry describes. -/
def RamEntry.seg (e : RamEntry) : Seg Word64 := ⟨e.addr, e.len.toNat⟩

namespace DescriptorRams

theorem store_ram_self (r : DescriptorRams) (w : SgWrite) :
    (r.store w).ram w.toRbdm = Function.update (r.ram w.toRbdm) w.ramAddr w.entry :=
  Function.update_self _ _ _

theorem store_ram_of_ne (r : DescriptorRams) {w : SgWrite} {other : Bool}
    (ne : other ≠ w.toRbdm) : (r.store w).ram other = r.ram other :=
  Function.update_of_ne ne _ _

theorem foldl_store_sgWrites (r : DescriptorRams) (writes : List SgWrite) :
    (writes.foldl store r).sgWrites = r.sgWrites ++ writes := by
  induction writes generalizing r with
  | nil => simp
  | cons w rest ih => rw [List.foldl_cons, ih]; simp [store]

theorem foldl_store_ram_of_ne (r : DescriptorRams) {writes : List SgWrite} {target other : Bool}
    (aimed : ∀ w ∈ writes, w.toRbdm = target) (ne : other ≠ target) :
    (writes.foldl store r).ram other = r.ram other := by
  induction writes generalizing r with
  | nil => rfl
  | cons w rest ih =>
      rw [List.foldl_cons, ih _ fun w' member => aimed w' (List.mem_cons_of_mem _ member)]
      exact store_ram_of_ne r (by rwa [aimed w List.mem_cons_self])

/-- Pushes to consecutive addresses store their entries one after the
other. -/
theorem foldl_store_ram (r : DescriptorRams) {writes : List SgWrite} {target : Bool} {start : ℕ}
    (aimed : ∀ w ∈ writes, w.toRbdm = target)
    (consecutive : writes.map SgWrite.ramAddr = List.range' start writes.length) :
    (writes.foldl store r).ram target =
      storeFrom (r.ram target) start (writes.map SgWrite.entry) := by
  induction writes generalizing r start with
  | nil => rfl
  | cons w rest ih =>
      simp only [List.map_cons, List.length_cons, List.range'_succ, List.cons.injEq]
        at consecutive
      obtain ⟨here, later⟩ := consecutive
      obtain rfl : w.toRbdm = target := aimed w List.mem_cons_self
      rw [List.foldl_cons, ih _ (fun w' member => aimed w' (List.mem_cons_of_mem _ member)) later,
        List.map_cons, storeFrom, store_ram_self, here]

end DescriptorRams

namespace DmaChannel

theorem ramCtrl_enabled (targetRam : Bool) (entryAddr : Word32) :
    (ramCtrl targetRam entryAddr).getLsbD 31 = true := by
  simp [ramCtrl, sgctrlWriteEnable]

/-- Addresses below 2^30 leave the flag bits alone … -/
theorem toRbdm_ramCtrl (targetRam : Bool) {entryAddr : Word32} (small : entryAddr.toNat < 2 ^ 30)
    (e : RamEntry) : SgWrite.toRbdm ⟨e, ramCtrl targetRam entryAddr⟩ = targetRam := by
  have clear : entryAddr[30] = false := Nat.testBit_lt_two_pow small
  cases targetRam <;>
    simp [SgWrite.toRbdm, ramCtrl, clear, sgctrlWriteEnable, sgctrlTargetRbdmRam,
      sgctrlTargetEbdmRam]

/-- … and are read back from the control word. -/
theorem ramAddr_ramCtrl (targetRam : Bool) {entryAddr : Word32} (small : entryAddr.toNat < 2 ^ 30)
    (e : RamEntry) : SgWrite.ramAddr ⟨e, ramCtrl targetRam entryAddr⟩ = entryAddr.toNat := by
  have mask (x : Word32) : (x &&& 0x3fffffff#32).toNat = x.toNat % 2 ^ 30 := by
    rw [BitVec.toNat_and]
    exact Nat.and_two_pow_sub_one_eq_mod x.toNat 30
  have enable : sgctrlWriteEnable.toNat % 2 ^ 30 = 0 := by decide
  have select : (if targetRam then sgctrlTargetRbdmRam else sgctrlTargetEbdmRam).toNat % 2 ^ 30
      = 0 := by
    cases targetRam <;> decide
  rw [SgWrite.ramAddr, mask, ramCtrl, BitVec.toNat_or, BitVec.toNat_or, Nat.or_mod_two_pow,
    Nat.or_mod_two_pow, enable, select, Nat.or_zero, Nat.zero_or, Nat.mod_eq_of_lt small]

/-- The pushes of `writeDescriptors`: one per entry, then the terminator. -/
def descriptorWrites (targetRam : Bool) (entryAddr : Word32) :
    List ScatterGatherEntry → List SgWrite
  | [] => [⟨⟨0, 0⟩, ramCtrl targetRam entryAddr⟩]
  | e :: rest =>
      ⟨e.ramEntry, ramCtrl targetRam entryAddr⟩ ::
        descriptorWrites targetRam (entryAddr + 1) rest

theorem writeDescriptors_spec (targetRam : Bool) (ch : DmaChannel) (entryAddr : Word32)
    (l : List ScatterGatherEntry) :
    SgFrame ch (writeDescriptors targetRam ch entryAddr l) ∧
      (writeDescriptors targetRam ch entryAddr l).device.rams =
        (descriptorWrites targetRam entryAddr l).foldl DescriptorRams.store ch.device.rams := by
  induction l generalizing ch entryAddr with
  | nil =>
      exact ⟨pushSglistEntryToRAM_frame _ _ _ _,
        pushSglistEntryToRAM_rams _ _ _ _ (ramCtrl_enabled _ _)⟩
  | cons e rest ih =>
      obtain ⟨frame, rams⟩ := ih
        (ch.pushSglistEntryToRAM e.pointer (lowWord e.length) (ramCtrl targetRam entryAddr))
        (entryAddr + 1)
      refine ⟨(pushSglistEntryToRAM_frame _ _ _ _).trans frame, ?_⟩
      rw [writeDescriptors, rams, pushSglistEntryToRAM_rams _ _ _ _ (ramCtrl_enabled _ _),
        descriptorWrites, List.foldl_cons]
      rfl

@[simp] theorem length_descriptorWrites (targetRam : Bool) (entryAddr : Word32)
    (l : List ScatterGatherEntry) :
    (descriptorWrites targetRam entryAddr l).length = l.length + 1 := by
  induction l generalizing entryAddr with
  | nil => rfl
  | cons e rest ih => simp [descriptorWrites, ih]

theorem descriptorWrites_entry (targetRam : Bool) (entryAddr : Word32)
    (l : List ScatterGatherEntry) :
    (descriptorWrites targetRam entryAddr l).map SgWrite.entry =
      l.map ScatterGatherEntry.ramEntry ++ [⟨0, 0⟩] := by
  induction l generalizing entryAddr with
  | nil => rfl
  | cons e rest ih => simp [descriptorWrites, ih]

/-- As long as the address counter stays below 2^30, every push goes to the
target RAM, at the next address. -/
theorem descriptorWrites_aimed (targetRam : Bool) {entryAddr : Word32}
    {l : List ScatterGatherEntry} (fits : entryAddr.toNat + l.length < 2 ^ 30) :
    (∀ w ∈ descriptorWrites targetRam entryAddr l, w.toRbdm = targetRam) ∧
      (descriptorWrites targetRam entryAddr l).map SgWrite.ramAddr =
        List.range' entryAddr.toNat (l.length + 1) := by
  induction l generalizing entryAddr with
  | nil =>
      have small : entryAddr.toNat < 2 ^ 30 := fits
      simp [descriptorWrites, toRbdm_ramCtrl targetRam small, ramAddr_ramCtrl targetRam small]
  | cons e rest ih =>
      rw [List.length_cons] at fits
      have small : entryAddr.toNat < 2 ^ 30 := by omega
      have next : (entryAddr + 1).toNat = entryAddr.toNat + 1 := by
        rw [BitVec.toNat_add]
        exact Nat.mod_eq_of_lt (by simp; omega)
      obtain ⟨aimed, consecutive⟩ := ih (show (entryAddr + 1).toNat + rest.length < 2 ^ 30 by omega)
      rw [descriptorWrites, List.forall_mem_cons, List.map_cons, consecutive, next,
        ramAddr_ramCtrl targetRam small, List.length_cons, List.range'_succ]
      exact ⟨⟨toRbdm_ramCtrl targetRam small _, aimed⟩, rfl⟩

end DmaChannel
end Librorc
