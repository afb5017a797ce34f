import Librorc.Dma.Buffer
import Mathlib.Data.List.Nodup

/-!
# Offsets and physical addresses

`offsetToPhysAddr` and `physAddrToOffset` search the list in two loops of
their own. Both are read off the address map `sgBytes`: the first returns the
byte at a position, the second a position of the byte. Where no address is
covered twice the map has no duplicates, and the two are inverse.
-/

namespace Librorc

open Librorc.Lib

/-- `p` is one of the addresses of the segment. -/
def ScatterGatherEntry.Covers (e : ScatterGatherEntry) (p : Word64) : Prop :=
  e.pointer.toNat ≤ p.toNat ∧ p.toNat < e.pointer.toNat + e.length.toNat

/-- Segments that do not wrap and do not overlap, empty ones included. -/
structure Translatable (l : List ScatterGatherEntry) : Prop where
  noWrap : ∀ e ∈ l, e.pointer.toNat + e.length.toNat < 2 ^ 64
  disjoint : l.Pairwise fun e f => ∀ p, e.Covers p → ¬f.Covers p

/-! ## The bytes of a segment -/

theorem getElem?_seg_bytes_iff {e : ScatterGatherEntry}
    (noWrap : e.pointer.toNat + e.length.toNat < 2 ^ 64) {p : Word64} {k : ℕ} :
    e.seg.bytes[k]? = some p ↔ k < e.length.toNat ∧ p.toNat = e.pointer.toNat + k := by
  by_cases inside : k < e.length.toNat
  · have value : (e.pointer + (k : Word64)).toNat = e.pointer.toNat + k := by
      rw [BitVec.toNat_add, BitVec.natCast_eq_ofNat, BitVec.toNat_ofNat,
        Nat.mod_eq_of_lt (show k < 2 ^ 64 by omega)]
      exact Nat.mod_eq_of_lt (by omega)
    rw [Seg.getElem?_bytes e.seg inside, Option.some.injEq, ← value, BitVec.toNat_inj, eq_comm]
    exact (and_iff_right inside).symm
  · rw [List.getElem?_eq_none (by simpa [ScatterGatherEntry.seg] using inside)]
    exact iff_of_false (by simp) fun both => inside both.1

theorem mem_seg_bytes_iff {e : ScatterGatherEntry}
    (noWrap : e.pointer.toNat + e.length.toNat < 2 ^ 64) {p : Word64} :
    p ∈ e.seg.bytes ↔ e.Covers p := by
  rw [List.mem_iff_getElem?, ScatterGatherEntry.Covers]
  simp only [getElem?_seg_bytes_iff noWrap]
  constructor
  · rintro ⟨k, inside, value⟩
    omega
  · rintro ⟨low, high⟩
    exact ⟨p.toNat - e.pointer.toNat, by omega, by omega⟩

theorem nodup_seg_bytes {e : ScatterGatherEntry}
    (noWrap : e.pointer.toNat + e.length.toNat < 2 ^ 64) : e.seg.bytes.Nodup := by
  rw [List.nodup_iff_getElem?_ne_getElem?]
  intro i j before inside same
  obtain ⟨p, atJ⟩ : ∃ p, e.seg.bytes[j]? = some p := ⟨_, List.getElem?_eq_getElem inside⟩
  have first := (getElem?_seg_bytes_iff noWrap).mp (same.trans atJ)
  have second := (getElem?_seg_bytes_iff noWrap).mp atJ
  omega

namespace Translatable

variable {l : List ScatterGatherEntry}

theorem of_cons {e : ScatterGatherEntry} (ok : Translatable (e :: l)) :
    e.pointer.toNat + e.length.toNat < 2 ^ 64 ∧ Translatable l :=
  ⟨ok.noWrap e List.mem_cons_self,
    fun f member => ok.noWrap f (List.mem_cons_of_mem _ member),
    (List.pairwise_cons.mp ok.disjoint).2⟩

theorem mem_sgBytes_iff (ok : Translatable l) {p : Word64} :
    p ∈ sgBytes l ↔ ∃ e ∈ l, e.Covers p := by
  rw [sgBytes, segBytes, sgSegs, List.flatMap_map, List.mem_flatMap]
  constructor
  · rintro ⟨e, member, covered⟩
    exact ⟨e, member, (mem_seg_bytes_iff (ok.noWrap e member)).mp covered⟩
  · rintro ⟨e, member, covered⟩
    exact ⟨e, member, (mem_seg_bytes_iff (ok.noWrap e member)).mpr covered⟩

/-- No address occurs twice in the map. -/
theorem nodup (ok : Translatable l) : (sgBytes l).Nodup := by
  rw [sgBytes, segBytes, sgSegs, List.flatMap_map, List.nodup_flatMap]
  refine ⟨fun e member => nodup_seg_bytes (ok.noWrap e member), ?_⟩
  refine ok.disjoint.imp_of_mem fun {e f} inE inF apart p coveredE coveredF => ?_
  exact apart p ((mem_seg_bytes_iff (ok.noWrap e inE)).mp coveredE)
    ((mem_seg_bytes_iff (ok.noWrap f inF)).mp coveredF)

/-- The last address of all is in no segment, so a list without overlap is
shorter than the address space. -/
theorem sgTotal_lt (ok : Translatable l) : sgTotal l < 2 ^ 64 := by
  have distinct : ((sgBytes l).map BitVec.toNat).Nodup :=
    ok.nodup.map fun _ _ same => BitVec.eq_of_toNat_eq same
  have below : (sgBytes l).map BitVec.toNat ⊆ List.range (2 ^ 64 - 1) := by
    intro n member
    obtain ⟨p, inMap, rfl⟩ := List.mem_map.mp member
    obtain ⟨e, inList, covered⟩ := ok.mem_sgBytes_iff.mp inMap
    have := ok.noWrap e inList
    have := covered.2
    exact List.mem_range.mpr (by omega)
  have count := (List.subperm_of_subset distinct below).length_le
  rw [List.length_map, length_sgBytes, List.length_range] at count
  omega

end Translatable

namespace Buffer

variable {l : List ScatterGatherEntry}

/-! ## The two searches over the address map -/

/-- `offsetToPhysAddr` finds the byte at the position. -/
theorem searchOffset_fst (fits : sgTotal l < 2 ^ 64) (offset : Word64) :
    (searchOffset offset 0 l).map Prod.fst = (sgBytes l)[offset.toNat]? := by
  rw [searchOffset_zero fits, Option.map_map, sgBytes, ← locate_fst]
  rfl

/-- A byte of the map is found by its position. -/
theorem searchOffset_of_byte (fits : sgTotal l < 2 ^ 64) {offset p : Word64}
    (byte : (sgBytes l)[offset.toNat]? = some p) : ∃ r, searchOffset offset 0 l = some (p, r) := by
  rw [← searchOffset_fst fits, Option.map_eq_some_iff] at byte
  obtain ⟨⟨a, r⟩, found, rfl⟩ := byte
  exact ⟨r, found⟩

theorem lt_sgTotal_of_byte {k : ℕ} {p : Word64} (byte : (sgBytes l)[k]? = some p) :
    k < sgTotal l := by
  rw [← length_sgBytes]
  exact (List.getElem?_eq_some_iff.mp byte).1

/-- The branch of `physAddrToOffset`. -/
theorem inSegment_iff {e : ScatterGatherEntry}
    (noWrap : e.pointer.toNat + e.length.toNat < 2 ^ 64) {p : Word64} :
    e.pointer ≤ p ∧ p < e.pointer + e.length ↔ e.Covers p := by
  rw [BitVec.le_def, BitVec.lt_def, BitVec.toNat_add, Nat.mod_eq_of_lt noWrap,
    ScatterGatherEntry.Covers]

/-- `physAddrToOffset` fails outside the segments … -/
theorem searchPhysAddr_eq_none_iff (ok : Translatable l) (p ref : Word64) :
    searchPhysAddr p ref l = none ↔ ∀ e ∈ l, ¬e.Covers p := by
  induction l generalizing ref with
  | nil => simp [searchPhysAddr]
  | cons e rest ih =>
      obtain ⟨noWrap, ok⟩ := ok.of_cons
      rw [searchPhysAddr, List.forall_mem_cons]
      by_cases covered : e.Covers p
      · rw [if_pos ((inSegment_iff noWrap).mpr covered)]
        simp [covered]
      · rw [if_neg (mt (inSegment_iff noWrap).mp covered), ih ok]
        exact (and_iff_right covered).symm

/-- … and inside them finds a position of the address. -/
theorem searchPhysAddr_some (ok : Translatable l) {p ref offset : Word64}
    (found : searchPhysAddr p ref l = some offset) :
    ∃ k : ℕ, (sgBytes l)[k]? = some p ∧ offset = ref + (k : Word64) := by
  induction l generalizing ref with
  | nil => simp [searchPhysAddr] at found
  | cons e rest ih =>
      obtain ⟨noWrap, ok⟩ := ok.of_cons
      rw [searchPhysAddr] at found
      by_cases covered : e.Covers p
      · rw [if_pos ((inSegment_iff noWrap).mpr covered), Option.some.injEq] at found
        obtain ⟨low, high⟩ := covered
        refine ⟨p.toNat - e.pointer.toNat, ?_, ?_⟩
        · rw [sgBytes_cons, List.getElem?_append_left
            (by simp only [Seg.length_bytes, ScatterGatherEntry.seg]; omega)]
          exact (getElem?_seg_bytes_iff noWrap).mpr ⟨by omega, by omega⟩
        · rw [← found]
          congr 1
          apply BitVec.eq_of_toNat_eq
          rw [BitVec.toNat_sub_of_le low, BitVec.natCast_eq_ofNat, BitVec.toNat_ofNat]
          exact (Nat.mod_eq_of_lt (by omega)).symm
      · rw [if_neg (mt (inSegment_iff noWrap).mp covered)] at found
        obtain ⟨k, byte, rfl⟩ := ih ok found
        refine ⟨e.length.toNat + k, ?_, ?_⟩
        · rw [sgBytes_cons, List.getElem?_append_right
            (by simp [ScatterGatherEntry.seg])]
          simpa [ScatterGatherEntry.seg] using byte
        · rw [Nat.cast_add, natCast_toNat, add_assoc]

/-! ## Both ways -/

/-- What a successful lookup of an offset reports. -/
theorem searchOffset_some (ok : Translatable l) {offset p r : Word64}
    (found : searchOffset offset 0 l = some (p, r)) :
    (sgBytes l)[offset.toNat]? = some p ∧ 0 < r.toNat ∧ offset.toNat + r.toNat ≤ sgTotal l ∧
      (∃ e ∈ l, e.Covers p ∧ p.toNat + r.toNat ≤ e.pointer.toNat + e.length.toNat) ∧
      ∀ k < r.toNat, (sgBytes l)[offset.toNat + k]? = some (p + (k : Word64)) := by
  have fits := ok.sgTotal_lt
  rw [searchOffset_zero fits, Option.map_eq_some_iff] at found
  obtain ⟨⟨a, left⟩, located, same⟩ := found
  obtain ⟨rfl, rfl⟩ : a = p ∧ BitVec.ofNat 64 left = r := Prod.mk.inj same
  have reach := locate_le_total located
  obtain ⟨positive, s, member, j, base, rest⟩ := locate_within located
  obtain ⟨e, inList, rfl⟩ := List.mem_map.mp member
  rw [← sgTotal] at reach
  have leftNat : (BitVec.ofNat 64 left).toNat = left := by
    rw [BitVec.toNat_ofNat]
    exact Nat.mod_eq_of_lt (by omega)
  have byte {k : ℕ} (before : k < left) :
      (sgBytes l)[offset.toNat + k]? = some (a + (k : Word64)) :=
    locate_bytes located before
  have first := byte positive
  have covered := (getElem?_seg_bytes_iff (ok.noWrap e inList)).mp
    ((Seg.getElem?_bytes e.seg (show j < e.seg.len by omega)).trans (congrArg some base.symm))
  simp only [ScatterGatherEntry.seg] at rest
  refine ⟨by simpa using first, by omega, by simpa [leftNat] using reach,
    ⟨e, inList, ⟨by omega, by omega⟩, by omega⟩, fun k before => byte (by omega)⟩

/-- `physAddrToOffset` finds the one position of an address. -/
theorem searchPhysAddr_of_byte (ok : Translatable l) {offset p : Word64}
    (byte : (sgBytes l)[offset.toNat]? = some p) : searchPhysAddr p 0 l = some offset := by
  obtain ⟨e, inList, covered⟩ := ok.mem_sgBytes_iff.mp (List.mem_of_getElem? byte)
  cases back : searchPhysAddr p 0 l with
  | none => exact absurd covered ((searchPhysAddr_eq_none_iff ok p 0).mp back e inList)
  | some offset' =>
      obtain ⟨k, byte', rfl⟩ := searchPhysAddr_some ok back
      have inside : k < (sgBytes l).length := by
        rw [length_sgBytes]
        exact lt_sgTotal_of_byte byte'
      have same : k = offset.toNat :=
        (List.getElem?_inj inside ok.nodup).mp (byte'.trans byte.symm)
      rw [same, natCast_toNat, zero_add]

/-- The other way round the position found is one `offsetToPhysAddr` takes
back. -/
theorem searchOffset_of_searchPhysAddr (ok : Translatable l) {p offset : Word64}
    (found : searchPhysAddr p 0 l = some offset) :
    ∃ r, searchOffset offset 0 l = some (p, r) := by
  have fits := ok.sgTotal_lt
  obtain ⟨k, byte, rfl⟩ := searchPhysAddr_some ok found
  have small : k < 2 ^ 64 := Nat.lt_trans (lt_sgTotal_of_byte byte) fits
  refine searchOffset_of_byte fits ?_
  rw [zero_add, BitVec.natCast_eq_ofNat, BitVec.toNat_ofNat, Nat.mod_eq_of_lt small]
  exact byte

/-- **Translation round trip.** On a list without wrapping or overlapping
segments the two lookups are inverse, each succeeds exactly on the buffer's
own offsets and addresses, and the remaining length is good for as many more
bytes. -/
theorem translation_round_trip (b : Buffer) (l : List ScatterGatherEntry)
    (has : b.source.read = some l) (ok : Translatable l) :
    (∀ offset, (b.offsetToPhysAddr offset).1.isSome ↔ offset.toNat < sgTotal l) ∧
    (∀ p, (b.physAddrToOffset p).1.isSome ↔ ∃ e ∈ l, e.Covers p) ∧
    (∀ offset p r, (b.offsetToPhysAddr offset).1 = some (p, r) →
      (b.physAddrToOffset p).1 = some offset ∧ 0 < r.toNat ∧
      (∃ e ∈ l, e.Covers p ∧ p.toNat + r.toNat ≤ e.pointer.toNat + e.length.toNat) ∧
      ∀ k : Word64, k < r →
        ∃ r', (b.offsetToPhysAddr (offset + k)).1 = some (p + k, r')) ∧
    (∀ p offset, (b.physAddrToOffset p).1 = some offset →
      ∃ r, (b.offsetToPhysAddr offset).1 = some (p, r)) := by
  have fits := ok.sgTotal_lt
  simp only [offsetToPhysAddr_eq has, physAddrToOffset_eq has]
  refine ⟨fun offset => ?_, fun p => ?_, fun offset p r found => ?_,
    fun p offset found => searchOffset_of_searchPhysAddr ok found⟩
  · rw [← Option.isSome_map (f := Prod.fst), searchOffset_fst fits, isSome_getElem?, length_sgBytes]
  · rw [Option.isSome_iff_ne_none, ne_eq, searchPhysAddr_eq_none_iff ok]
    push Not
    rfl
  · obtain ⟨byte, positive, reach, inside, later⟩ := searchOffset_some ok found
    refine ⟨searchPhysAddr_of_byte ok byte, positive, inside, fun k before => ?_⟩
    have next : (offset + k).toNat = offset.toNat + k.toNat := by
      rw [BitVec.toNat_add]
      exact Nat.mod_eq_of_lt (by have := BitVec.lt_def.mp before; omega)
    have byte' := later k.toNat before
    rw [natCast_toNat, ← next] at byte'
    exact searchOffset_of_byte fits byte'

/-- Two segments against the physical order, with an empty one between. -/
def reversedList : List ScatterGatherEntry :=
  [⟨0x40000, 0x2000⟩, ⟨0x7000, 0⟩, ⟨0x10000, 0x1000⟩]

theorem translation_round_trip_reversed :
    let b := connect (.pda (some reversedList)) 0x3000
    (∀ offset, (b.offsetToPhysAddr offset).1.isSome ↔ offset.toNat < sgTotal reversedList) ∧
    (∀ p, (b.physAddrToOffset p).1.isSome ↔ ∃ e ∈ reversedList, e.Covers p) ∧
    (∀ offset p r, (b.offsetToPhysAddr offset).1 = some (p, r) →
      (b.physAddrToOffset p).1 = some offset ∧ 0 < r.toNat ∧
      (∃ e ∈ reversedList,
        e.Covers p ∧ p.toNat + r.toNat ≤ e.pointer.toNat + e.length.toNat) ∧
      ∀ k : Word64, k < r →
        ∃ r', (b.offsetToPhysAddr (offset + k)).1 = some (p + k, r')) ∧
    (∀ p offset, (b.physAddrToOffset p).1 = some offset →
      ∃ r, (b.offsetToPhysAddr offset).1 = some (p, r)) :=
  translation_round_trip _ reversedList rfl {
    noWrap := by decide
    disjoint := by
      simp only [reversedList, ScatterGatherEntry.Covers, List.pairwise_cons, List.forall_mem_cons]
      simp
      omega }

end Buffer
end Librorc
