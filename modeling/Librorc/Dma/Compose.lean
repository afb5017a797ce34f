import Librorc.Dma.Channel

/-!
# Composing and announcing an HLT-OUT event

`composeSglistFromBufferSegment` cuts the cyclic window `[offset, offset+size)`
of a buffer into entries the device can read, `announceEvent` pushes them.
One turn of the loop takes a non-empty piece that stays inside its segment
(`composeLength_spec`, `searchOffset_turn`); `composeLoop_spec` adds the turns
up to the whole window.
-/

namespace Librorc

open Librorc.Lib

/-- What the kernel's DMA allocator hands out: non-empty segments on page
boundaries, whole pages each. -/
def PageSegments (page : PageSize) (l : List ScatterGatherEntry) : Prop :=
  ∀ e ∈ l, e.length ≠ 0 ∧ page.bytes ∣ e.length.toNat ∧ page.bytes ∣ e.pointer.toNat

/-- The bytes of `e` are part of one segment of the list. -/
def WithinSegment (l : List ScatterGatherEntry) (e : ScatterGatherEntry) : Prop :=
  ∃ s ∈ l, ∃ j : ℕ, e.pointer = s.pointer + (j : Word64) ∧
    j + e.length.toNat ≤ s.length.toNat

namespace Buffer

variable {page : PageSize} {l : List ScatterGatherEntry}

theorem pageMask_and (page : PageSize) (phys : Word64) :
    (phys &&& (page.word - 1)).toNat = phys.toNat % page.bytes := by
  have pos := page.bytes_pos
  have mask : (page.word - 1).toNat = 2 ^ page.shift - 1 := by
    rw [BitVec.toNat_sub_of_le (by rw [BitVec.le_def, PageSize.word_toNat]; exact pos),
      PageSize.word_toNat]
    rfl
  rw [BitVec.toNat_and, mask, Nat.and_two_pow_sub_one_eq_mod]
  rfl

theorem pageMask_ne_zero_iff (page : PageSize) (phys : Word64) :
    phys &&& (page.word - 1) ≠ 0 ↔ phys.toNat % page.bytes ≠ 0 := by
  rw [← pageMask_and, ne_eq, ne_eq, ← BitVec.toNat_inj]
  rfl

/-- The length of a turn from inside a page: up to the boundary, or what
remains. -/
theorem composeLength_inPage {page : PageSize} {phys : Word64}
    (inPage : phys.toNat % page.bytes ≠ 0) (segmentLength remSize : Word64) :
    (composeLength page phys segmentLength remSize).toNat =
      min remSize.toNat (page.bytes - phys.toNat % page.bytes) := by
  have le := page.bytes_le
  have modLt := Nat.mod_lt phys.toNat page.bytes_pos
  have distance : (page.word - (phys &&& (page.word - 1))).toNat =
      page.bytes - phys.toNat % page.bytes := by
    rw [BitVec.toNat_sub_of_le (by rw [BitVec.le_def, pageMask_and, PageSize.word_toNat]; omega),
      pageMask_and, PageSize.word_toNat]
  have small : ¬(page.word - (phys &&& (page.word - 1))) >>> 32 ≠ 0 :=
    not_not.mpr ((shiftRight_32_eq_zero_iff _).mpr (by rw [distance]; omega))
  rw [composeLength]
  simp only [if_pos ((pageMask_ne_zero_iff page phys).mpr inPage), if_neg small, BitVec.le_def,
    distance]
  split <;> omega

/-- The length of a turn from a page boundary: the rest of the segment, cut to
32 bits, or what remains. -/
theorem composeLength_onPage {page : PageSize} {phys : Word64}
    (onPage : phys.toNat % page.bytes = 0) (segmentLength remSize : Word64) :
    (composeLength page phys segmentLength remSize).toNat =
      min remSize.toNat (if 2 ^ 32 ≤ segmentLength.toNat then 2 ^ 32 - page.bytes
        else segmentLength.toNat) := by
  have noMask : ¬phys &&& (page.word - 1) ≠ 0 := fun h =>
    (pageMask_ne_zero_iff page phys).mp h onPage
  rw [composeLength]
  simp only [if_neg noMask]
  by_cases long : 2 ^ 32 ≤ segmentLength.toNat
  · have shifted : segmentLength >>> 32 ≠ 0 := fun zero =>
      absurd ((shiftRight_32_eq_zero_iff _).mp zero) (Nat.not_lt.mpr long)
    simp only [if_pos shifted, if_pos long, BitVec.le_def]
    split <;> simp only [PageSize.fourGiB_sub_word_toNat] at * <;> omega
  · have unshifted : ¬segmentLength >>> 32 ≠ 0 :=
      not_not.mpr ((shiftRight_32_eq_zero_iff _).mpr (by omega))
    simp only [if_neg unshifted, if_neg long, BitVec.le_def]
    split <;> omega

/-- One turn takes at least one byte, at most what remains, and a 32-bit
length. -/
theorem composeLength_bounds (page : PageSize) (phys : Word64) {segmentLength remSize : Word64}
    (segment : segmentLength ≠ 0) (rem : remSize ≠ 0) :
    let n := (composeLength page phys segmentLength remSize).toNat
    0 < n ∧ n ≤ remSize.toNat ∧ n < 2 ^ 32 := by
  have pos := page.bytes_pos
  have le := page.bytes_le
  have segmentPos : 0 < segmentLength.toNat :=
    Nat.pos_of_ne_zero fun h => segment (BitVec.eq_of_toNat_eq h)
  have remPos : 0 < remSize.toNat := Nat.pos_of_ne_zero fun h => rem (BitVec.eq_of_toNat_eq h)
  have modLt := Nat.mod_lt phys.toNat pos
  by_cases onPage : phys.toNat % page.bytes = 0
  · simp only [composeLength_onPage onPage]
    split <;> omega
  · simp only [composeLength_inPage onPage]
    omega

/-- A turn stays within the segment exactly when it starts on a page, or the
segment reaches the next page boundary, or the request ends before the
segment does. -/
theorem composeLength_le_iff (page : PageSize) (phys segmentLength remSize : Word64) :
    (composeLength page phys segmentLength remSize).toNat ≤ segmentLength.toNat ↔
      (phys.toNat % page.bytes = 0 ∨
        page.bytes - phys.toNat % page.bytes ≤ segmentLength.toNat ∨
        remSize.toNat ≤ segmentLength.toNat) := by
  have le := page.bytes_le
  by_cases onPage : phys.toNat % page.bytes = 0
  · rw [composeLength_onPage onPage, iff_true_right (.inl onPage)]
    split <;> omega
  · rw [composeLength_inPage onPage]
    omega

/-- In a list whose segments reach the page boundary, a turn stays within its
segment. -/
theorem composeLength_spec (page : PageSize) (phys segmentLength remSize : Word64)
    (segment : segmentLength ≠ 0) (rem : remSize ≠ 0)
    (boundary : phys.toNat % page.bytes ≠ 0 →
      page.bytes - phys.toNat % page.bytes ≤ segmentLength.toNat) :
    let n := (composeLength page phys segmentLength remSize).toNat
    0 < n ∧ n ≤ remSize.toNat ∧ n < 2 ^ 32 ∧ n ≤ segmentLength.toNat := by
  obtain ⟨positive, atMost, small⟩ := composeLength_bounds page phys segment rem
  refine ⟨positive, atMost, small, (composeLength_le_iff page phys segmentLength remSize).mpr ?_⟩
  by_cases onPage : phys.toNat % page.bytes = 0
  · exact .inl onPage
  · exact .inr (.inl (boundary onPage))

/-- In a page-aligned list, the bytes up to the next page boundary belong to
the segment. -/
theorem locate_page_boundary (aligned : PageSegments page l) {o r : ℕ} {phys : Word64}
    (found : locate (sgSegs l) o = some (phys, r)) :
    page.bytes - phys.toNat % page.bytes ≤ r := by
  obtain ⟨positive, seg, member, j, base, rest⟩ := locate_within found
  obtain ⟨e, inList, rfl⟩ := List.mem_map.mp member
  obtain ⟨-, ⟨pages, wholePages⟩, ⟨start, onBoundary⟩⟩ := aligned e inList
  have pagePos := page.bytes_pos
  have wraps : page.bytes ∣ 2 ^ 64 := Nat.dvd_trans page.bytes_dvd (by omega)
  have inSegment : phys.toNat % page.bytes = j % page.bytes := by
    have value : phys.toNat = (e.pointer.toNat + j % 2 ^ 64) % 2 ^ 64 := by
      rw [base]
      rfl
    rw [value, Nat.mod_mod_of_dvd _ wraps, onBoundary, Nat.mul_add_mod,
      Nat.mod_mod_of_dvd _ wraps]
  simp only [ScatterGatherEntry.seg] at rest
  -- `j + r` is a whole number of pages
  have split := Nat.div_add_mod j page.bytes
  have sum : j % page.bytes + r = page.bytes * (pages - j / page.bytes) := by
    rw [Nat.mul_sub]
    omega
  have onePage : 0 < pages - j / page.bytes := by
    rcases Nat.eq_zero_or_pos (pages - j / page.bytes) with none | some
    · rw [none] at sum
      omega
    · exact some
  have atLeast : page.bytes ≤ page.bytes * (pages - j / page.bytes) :=
    Nat.le_mul_of_pos_right _ onePage
  rw [inSegment]
  omega

/-- What one lookup in a page-aligned list returns for an offset inside the
buffer, and how far one turn of the loop goes from there. -/
theorem searchOffset_turn (aligned : PageSegments page l) (fits : sgTotal l < 2 ^ 64)
    {cur rem : Word64} (inside : cur.toNat < sgTotal l) (pending : rem ≠ 0) :
    ∃ phys segmentLength,
      searchOffset cur 0 l = some (phys, segmentLength) ∧
      let n := (composeLength page phys segmentLength rem).toNat
      0 < n ∧ n ≤ rem.toNat ∧ n < 2 ^ 32 ∧ cur.toNat + n ≤ sgTotal l ∧
      WithinSegment l ⟨phys, composeLength page phys segmentLength rem⟩ ∧
      CyclicSlice (sgBytes l) cur.toNat (Seg.bytes ⟨phys, n⟩) := by
  have lookup := searchOffset_zero fits cur
  cases found : locate (sgSegs l) cur.toNat with
  | none => exact absurd (locate_eq_none_iff.mp found) (by rw [← sgTotal]; omega)
  | some p =>
      obtain ⟨phys, r⟩ := p
      have within := locate_within found
      have reach := locate_le_total found
      rw [← sgTotal] at reach
      have rNat : (BitVec.ofNat 64 r).toNat = r := by
        rw [BitVec.toNat_ofNat]
        exact Nat.mod_eq_of_lt (by omega)
      have spec := composeLength_spec page phys (BitVec.ofNat 64 r) rem
        (by
          intro zero
          rw [← BitVec.toNat_inj, rNat] at zero
          exact absurd zero (by have := within.1; simp; omega))
        pending
        (fun _ => rNat.symm ▸ locate_page_boundary aligned found)
      rw [rNat] at spec
      refine ⟨phys, BitVec.ofNat 64 r, by rw [lookup, found]; rfl, spec.1, spec.2.1, spec.2.2.1,
        by have := spec.2.2.2; omega, ?_, locate_cyclicSlice found spec.2.2.2⟩
      obtain ⟨-, seg, member, j, base, rest⟩ := within
      obtain ⟨e, inList, rfl⟩ := List.mem_map.mp member
      exact ⟨e, inList, j, base, by
        simp only [ScatterGatherEntry.seg] at rest ⊢
        have := spec.2.2.2
        omega⟩

/-- The offset goes on modulo the buffer size. -/
theorem wrapped_toNat {b : Buffer} (total : sgTotal l = b.size.toNat) (cur length : Word64)
    (reach : cur.toNat + length.toNat ≤ sgTotal l) :
    (if cur + length = b.getPhysicalSize then 0 else cur + length).toNat =
      (cur.toNat + length.toNat) % sgTotal l := by
  have small := b.size.isLt
  have next : (cur + length).toNat = cur.toNat + length.toNat := by
    rw [BitVec.toNat_add]
    exact Nat.mod_eq_of_lt (by omega)
  split
  · rename_i atEnd
    have : cur.toNat + length.toNat = sgTotal l := by
      rw [← next, atEnd, total]
      rfl
    simp [this]
  · rename_i before
    have : cur.toNat + length.toNat ≠ sgTotal l := by
      rw [← next, total]
      exact fun h => before (BitVec.eq_of_toNat_eq h)
    rw [next, Nat.mod_eq_of_lt (by omega)]

/-- The loop finishes within `fuel ≥ rem` turns, succeeds, and appends the
window of `rem` bytes from `cur` on. Induction on the fuel; every turn takes
a byte at least. -/
theorem composeLoop_spec (aligned : PageSegments page l) {b : Buffer} (has : b.source.read = some l)
    (total : sgTotal l = b.size.toNat) (fuel : ℕ) (rem cur : Word64)
    (enough : rem.toNat ≤ fuel) (inside : cur.toNat < sgTotal l)
    (list : List ScatterGatherEntry) :
    ∃ entries b',
      composeLoop page fuel b rem cur list = some ((true, list ++ entries), b') ∧
      sgTotal entries = rem.toNat ∧
      CyclicSlice (sgBytes l) cur.toNat (sgBytes entries) ∧
      ∀ e ∈ entries, e.length ≠ 0 ∧ e.length.toNat < 2 ^ 32 ∧ WithinSegment l e := by
  have fits : sgTotal l < 2 ^ 64 := by
    rw [total]
    exact b.size.isLt
  induction fuel generalizing b rem cur list with
  | zero =>
      have done : rem = 0 := BitVec.eq_of_toNat_eq (by simpa using enough)
      refine ⟨[], b, ?_, by simp [done], CyclicSlice.nil, by simp⟩
      simp [composeLoop, done]
  | succ fuel ih =>
      by_cases pending : rem = 0
      · refine ⟨[], b, ?_, by simp [pending], CyclicSlice.nil, by simp⟩
        simp [composeLoop, pending]
      · obtain ⟨phys, segmentLength, lookup, positive, atMost, small, reach, within, window⟩ :=
          searchOffset_turn aligned fits inside pending
        generalize hlen : composeLength page phys segmentLength rem = length at *
        have remaining : (rem - length).toNat = rem.toNat - length.toNat :=
          BitVec.toNat_sub_of_le atMost
        have wrapped := wrapped_toNat total cur length (by omega)
        obtain ⟨entries, b', finished, size, slice, good⟩ :=
          ih (b := b.loaded has) has total (rem - length)
            (if cur + length = b.getPhysicalSize then 0 else cur + length)
            (by omega) (by rw [wrapped]; exact Nat.mod_lt _ (by omega))
            (list ++ [⟨phys, length⟩])
        refine ⟨⟨phys, length⟩ :: entries, b', ?_, ?_, ?_, ?_⟩
        · rw [composeLoop, if_neg pending]
          simp only [offsetToPhysAddr_eq has, lookup, hlen]
          exact finished.trans (by simp)
        · rw [sgTotal_cons, size]
          simp only
          omega
        · rw [sgBytes_cons]
          refine window.append ?_
          rw [Seg.length_bytes, length_sgBytes, ← wrapped]
          exact slice
        · intro e member
          rcases List.mem_cons.mp member with rfl | later
          · refine ⟨?_, small, within⟩
            rintro zero
            simp only at zero
            rw [zero] at positive
            exact absurd positive (by simp)
          · exact good e later

/-- An offset at or past the end of the buffer is refused at the first
lookup; nothing has been appended by then. -/
theorem compose_past_end {b : Buffer} (has : b.source.read = some l)
    (total : sgTotal l = b.size.toNat) {offset size : Word64} (nonempty : size ≠ 0)
    (past : b.getPhysicalSize ≤ offset) (list : List ScatterGatherEntry) :
    b.composeSglistFromBufferSegment page offset size list =
      some ((false, list), b.loaded has) := by
  have fits : sgTotal l < 2 ^ 64 := by
    rw [total]
    exact b.size.isLt
  have missing : searchOffset offset 0 l = none := by
    rw [searchOffset_zero fits, locate_eq_none_iff.mpr]
    · rfl
    · rw [← sgTotal, total]
      simpa [getPhysicalSize, BitVec.le_def] using past
  obtain ⟨fuel, hfuel⟩ : ∃ fuel, size.toNat = fuel + 1 :=
    Nat.exists_eq_succ_of_ne_zero fun zero => nonempty (BitVec.eq_of_toNat_eq zero)
  rw [composeSglistFromBufferSegment, hfuel, composeLoop, if_neg nonempty]
  simp only [offsetToPhysAddr_eq has, missing]

end Buffer

/-! ## Announcing -/

namespace DmaChannel

/-- The pushes `announceEvent` makes. -/
def announceWrites : List ScatterGatherEntry → List SgWrite
  | [] => []
  | e :: rest =>
      ⟨⟨e.pointer, lowWord e.length⟩,
        if rest = [] then sgctrlWriteEnable ||| sgctrlTargetEbdmRam ||| sgctrlEoeFlag
        else sgctrlWriteEnable ||| sgctrlTargetEbdmRam⟩ :: announceWrites rest

@[simp] theorem length_announceWrites (entries : List ScatterGatherEntry) :
    (announceWrites entries).length = entries.length := by
  induction entries with
  | nil => rfl
  | cons e rest ih => simp [announceWrites, ih]

theorem announceEvent_sgWrites (ch : DmaChannel) (entries : List ScatterGatherEntry) :
    (ch.announceEvent entries).device.rams.sgWrites =
      ch.device.rams.sgWrites ++ announceWrites entries := by
  induction entries generalizing ch with
  | nil => simp [announceEvent, announceWrites]
  | cons e rest ih =>
      rw [announceEvent, ih, pushSglistEntryToRAM_rams _ _ _ _ (by split <;> decide),
        DescriptorRams.store, announceWrites]
      simp

/-- The end-of-event flag is on the last push and on no other. -/
theorem announceWrites_eoe (entries : List ScatterGatherEntry) {i : ℕ} {w : SgWrite}
    (push : (announceWrites entries)[i]? = some w) :
    w.eoe = true ↔ i + 1 = entries.length := by
  induction entries generalizing i with
  | nil => simp [announceWrites] at push
  | cons e rest ih =>
      cases i with
      | zero =>
          simp only [announceWrites, List.getElem?_cons_zero, Option.some.injEq] at push
          subst push
          cases rest with
          | nil => simp [SgWrite.eoe, sgctrlWriteEnable, sgctrlTargetEbdmRam, sgctrlEoeFlag]
          | cons => simp [SgWrite.eoe, sgctrlWriteEnable, sgctrlTargetEbdmRam]
      | succ i =>
          simp only [announceWrites, List.getElem?_cons_succ] at push
          rw [ih push]
          simp

theorem announceWrites_entries (entries : List ScatterGatherEntry)
    (small : ∀ e ∈ entries, e.length.toNat < 2 ^ 32) :
    (announceWrites entries).map (fun w => (w.entry.addr, w.entry.len.toNat)) =
      entries.map fun e => (e.pointer, e.length.toNat) := by
  induction entries with
  | nil => rfl
  | cons e rest ih =>
      simp only [announceWrites, List.map_cons, lowWord_toNat (small e List.mem_cons_self)]
      rw [ih fun e' member => small e' (List.mem_cons_of_mem _ member)]

end DmaChannel

/-- **Composing and announcing.** Over a page-aligned list, every offset inside
the buffer and every non-empty size compose to entries that read the bytes
`offset, offset+1, …` modulo the buffer size, each inside one segment and
shorter than 4 GiB; `announceEvent` pushes these entries unchanged, the last
one with the end-of-event flag. An offset outside is refused. -/
theorem compose_announce_window (page : PageSize) (b : Buffer) (l : List ScatterGatherEntry)
    (has : b.source.read = some l) (aligned : PageSegments page l)
    (total : sgTotal l = b.getPhysicalSize.toNat) (offset size : Word64)
    (nonempty : size ≠ 0) :
    (offset < b.getPhysicalSize →
      ∃ entries b',
        b.composeSglistFromBufferSegment page offset size [] = some ((true, entries), b') ∧
        (sgBytes entries).length = size.toNat ∧
        (∀ i < size.toNat, (sgBytes entries)[i]? =
          (sgBytes l)[(offset.toNat + i) % b.getPhysicalSize.toNat]?) ∧
        (∀ e ∈ entries, e.length ≠ 0 ∧ e.length.toNat < 2 ^ 32 ∧ WithinSegment l e) ∧
        ∀ ch : DmaChannel, ∃ writes,
          (ch.announceEvent entries).device.rams.sgWrites =
            ch.device.rams.sgWrites ++ writes ∧
          writes.map (fun w => (w.entry.addr, w.entry.len.toNat)) =
            entries.map (fun e => (e.pointer, e.length.toNat)) ∧
          ∀ i w, writes[i]? = some w → (w.eoe = true ↔ i + 1 = writes.length)) ∧
    (b.getPhysicalSize ≤ offset → ∀ list, ∃ b',
      b.composeSglistFromBufferSegment page offset size list = some ((false, list), b')) := by
  constructor
  · intro inside
    have insideNat : offset.toNat < sgTotal l := by
      rw [total]
      exact inside
    obtain ⟨entries, b', finished, covered, slice, good⟩ :=
      Buffer.composeLoop_spec aligned has total size.toNat size offset (Nat.le_refl _) insideNat []
    rw [List.nil_append] at finished
    refine ⟨entries, b', finished, by simpa using covered, ?_, good, ?_⟩
    · intro i hi
      rw [slice i (by simpa [covered] using hi), length_sgBytes, total]
    · intro ch
      refine ⟨DmaChannel.announceWrites entries, DmaChannel.announceEvent_sgWrites ch entries,
        DmaChannel.announceWrites_entries entries fun e member => (good e member).2.1, ?_⟩
      intro i w push
      rw [DmaChannel.length_announceWrites]
      exact DmaChannel.announceWrites_eoe entries push
  · intro past list
    exact ⟨_, Buffer.compose_past_end has total nonempty past list⟩

/-- A three-page buffer in two segments, read across its end. -/
def threePageBuffer : Buffer :=
  Buffer.connect (.sysfs (some [⟨0x1000, 0x10000⟩, ⟨0x2000, 0x40000⟩])) 0x3000

theorem compose_announce_window_wraps :
    ∃ entries b',
      threePageBuffer.composeSglistFromBufferSegment .fourKiB 0x2800 0x1000 [] =
        some ((true, entries), b') ∧
      (sgBytes entries).length = 0x1000 := by
  obtain ⟨inside, -⟩ := compose_announce_window .fourKiB threePageBuffer
    [⟨0x10000, 0x1000⟩, ⟨0x40000, 0x2000⟩] (by rfl) (by unfold PageSegments; decide)
    (by decide) 0x2800 0x1000 (by decide)
  obtain ⟨entries, b', composed, covered, -⟩ := inside (by decide)
  exact ⟨entries, b', composed, covered⟩

end Librorc
