import Librorc.Dma.Translate

/-!
# `bar_impl_sim::getOffset`: two build variants

A request of the device carries a physical address; `getOffset` finds the
buffer it lies in and the offset there. The PDA build walks the sg lists of all
buffers itself, the sysfs build asks every buffer in turn.
-/

namespace Librorc

open Librorc.Lib

namespace BarImplSim

/-- The loop over the sg list of one buffer (PDA build). -/
def searchNodes (physAddr : Word64) : Word64 → List ScatterGatherEntry → Option Word64
  | _, [] => none
  | offset, node :: rest =>
      if node.pointer ≤ physAddr ∧ physAddr < node.pointer + node.length then
        some (offset + (physAddr - node.pointer))
      else searchNodes physAddr (offset + node.length / 8) rest

/-- `getOffset` (PDA build): buffer ID and offset. `none` in the place of a list
is a buffer whose list cannot be had. -/
def getOffsetPda (physAddr : Word64) :
    List (Word64 × Option (List ScatterGatherEntry)) → Option (Word64 × Word64)
  | [] => none
  | (_, none) :: _ => none
  | (bufferId, some sglist) :: rest =>
      match searchNodes physAddr 0 sglist with
      | some offset => some (bufferId, offset)
      | none => getOffsetPda physAddr rest

/-- `getOffset` (sysfs build). -/
def getOffset (physAddr : Word64) : List (Word64 × Buffer) → Option (Word64 × Word64)
  | [] => none
  | (bufferId, buf) :: rest =>
      match (buf.physAddrToOffset physAddr).1 with
      | some offset => some (bufferId, offset)
      | none => getOffset physAddr rest

end BarImplSim

/-- A buffer as both builds see it. -/
structure HostBuffer where
  bufferId : Word64
  sglist : List ScatterGatherEntry
  buffer : Buffer
  reads : buffer.source.read = some sglist

namespace HostBuffer

def pda (h : HostBuffer) : Word64 × Option (List ScatterGatherEntry) := (h.bufferId, some h.sglist)

def sysfs (h : HostBuffer) : Word64 × Buffer := (h.bufferId, h.buffer)

/-- Both builds find the buffer and the offset of an address, and fail for an
address in no buffer. -/
def BuildsAgree (hosts : List HostBuffer) (p : Word64) : Prop :=
  (∀ h ∈ hosts, ∀ offset : Word64, (sgBytes h.sglist)[offset.toNat]? = some p →
    BarImplSim.getOffsetPda p (hosts.map pda) = some (h.bufferId, offset) ∧
      BarImplSim.getOffset p (hosts.map sysfs) = some (h.bufferId, offset)) ∧
  ((∀ h ∈ hosts, p ∉ sgBytes h.sglist) →
    BarImplSim.getOffsetPda p (hosts.map pda) = none ∧
      BarImplSim.getOffset p (hosts.map sysfs) = none)

end HostBuffer

/-! ## One list -/

namespace BarImplSim

variable {l front back : List ScatterGatherEntry} {e : ScatterGatherEntry} {p : Word64}
  {advance : Word64 → Word64}

/-- Either loop over a list, by what a segment that is passed over adds. -/
def walk (advance : Word64 → Word64) (p : Word64) :
    Word64 → List ScatterGatherEntry → Option Word64
  | _, [] => none
  | offset, e :: rest =>
      if e.pointer ≤ p ∧ p < e.pointer + e.length then some (offset + (p - e.pointer))
      else walk advance p (offset + advance e.length) rest

theorem searchNodes_eq_walk (p offset : Word64) (l : List ScatterGatherEntry) :
    searchNodes p offset l = walk (· / 8) p offset l := by
  induction l generalizing offset with
  | nil => rfl
  | cons e rest ih => simp only [searchNodes, walk, ih]

theorem searchPhysAddr_eq_walk (p offset : Word64) (l : List ScatterGatherEntry) :
    Buffer.searchPhysAddr p offset l = walk id p offset l := by
  induction l generalizing offset with
  | nil => rfl
  | cons e rest ih => simp only [Buffer.searchPhysAddr, walk, ih, id]

theorem walk_eq_none_iff (ok : Translatable l) (p offset : Word64) :
    walk advance p offset l = none ↔ ∀ e ∈ l, ¬e.Covers p := by
  induction l generalizing offset with
  | nil => simp [walk]
  | cons e rest ih =>
      obtain ⟨noWrap, ok⟩ := ok.of_cons
      rw [walk, List.forall_mem_cons]
      by_cases covered : e.Covers p
      · rw [if_pos ((Buffer.inSegment_iff noWrap).mpr covered)]
        simp [covered]
      · rw [if_neg (mt (Buffer.inSegment_iff noWrap).mp covered), ih ok]
        exact (and_iff_right covered).symm

theorem searchNodes_eq_none_iff (ok : Translatable l) (p offset : Word64) :
    searchNodes p offset l = none ↔ ∀ e ∈ l, ¬e.Covers p := by
  rw [searchNodes_eq_walk, walk_eq_none_iff ok]

/-- The offset adds up what the segments before the address have added. -/
theorem walk_split (ok : Translatable (front ++ e :: back))
    (passed : ∀ f ∈ front, ¬f.Covers p) (covered : e.Covers p) (offset : Word64) :
    walk advance p offset (front ++ e :: back) =
      some (offset + (p - e.pointer) +
        BitVec.ofNat 64 (front.map fun f => (advance f.length).toNat).sum) := by
  induction front generalizing offset with
  | nil =>
      obtain ⟨noWrap, -⟩ := ok.of_cons
      rw [List.nil_append, walk, if_pos ((Buffer.inSegment_iff noWrap).mpr covered)]
      exact congrArg some (BitVec.add_zero _).symm
  | cons f front ih =>
      rw [List.cons_append] at ok ⊢
      obtain ⟨noWrap, ok⟩ := ok.of_cons
      obtain ⟨passedHere, passed⟩ := List.forall_mem_cons.mp passed
      rw [walk, if_neg (mt (Buffer.inSegment_iff noWrap).mp passedHere), ih ok passed,
        List.map_cons, List.sum_cons, BitVec.ofNat_add, BitVec.ofNat_toNat, BitVec.setWidth_eq]
      congr 1
      ac_rfl

theorem eighths_le (ns : List ℕ) : (ns.map (· / 8)).sum ≤ ns.sum := by
  induction ns with
  | nil => exact Nat.le_refl _
  | cons n ns ih =>
      rw [List.map_cons, List.sum_cons, List.sum_cons]
      omega

theorem eighths_eq_iff (ns : List ℕ) : (ns.map (· / 8)).sum = ns.sum ↔ ∀ n ∈ ns, n = 0 := by
  induction ns with
  | nil => simp
  | cons n ns ih =>
      have rest := eighths_le ns
      rw [List.forall_mem_cons, ← ih, List.map_cons, List.sum_cons, List.sum_cons]
      omega

/-- The two loops agree on an address exactly when the segments before it are
empty: the PDA build counts in quad words what it has passed over. -/
theorem walks_agree_iff (ok : Translatable (front ++ e :: back))
    (passed : ∀ f ∈ front, ¬f.Covers p) (covered : e.Covers p) :
    searchNodes p 0 (front ++ e :: back) = Buffer.searchPhysAddr p 0 (front ++ e :: back) ↔
      ∀ f ∈ front, f.length = 0 := by
  have total : sgTotal (front ++ e :: back) =
      (front.map fun f => f.length.toNat).sum + sgTotal (e :: back) := by
    simp [sgTotal, segTotal, sgSegs, ScatterGatherEntry.seg, Function.comp_def]
  have small := ok.sgTotal_lt
  have eighth : (front.map fun f => (f.length / 8).toNat) =
      (front.map fun f => f.length.toNat).map (· / 8) := by
    rw [List.map_map]
    exact List.map_congr_left fun f _ => BitVec.toNat_udiv
  have less := eighths_le (front.map fun f => f.length.toNat)
  have zeros := eighths_eq_iff (front.map fun f => f.length.toNat)
  rw [searchNodes_eq_walk, searchPhysAddr_eq_walk, walk_split ok passed covered,
    walk_split ok passed covered, Option.some.injEq, BitVec.add_right_inj, eighth]
  simp only [id]
  rw [← BitVec.toNat_inj, BitVec.toNat_ofNat, BitVec.toNat_ofNat, Nat.mod_eq_of_lt (by omega),
    Nat.mod_eq_of_lt (by omega), zeros, List.forall_mem_map]
  refine forall₂_congr fun f _ => ?_
  show f.length.toNat = (0 : Word64).toNat ↔ _
  exact BitVec.toNat_inj

/-! ## All buffers -/

/-- The PDA build takes the first buffer whose list has the address. -/
theorem getOffsetPda_eq (p : Word64) (hosts : List HostBuffer) :
    getOffsetPda p (hosts.map HostBuffer.pda) =
      hosts.findSome? fun h => (searchNodes p 0 h.sglist).map (h.bufferId, ·) := by
  induction hosts with
  | nil => rfl
  | cons h rest ih =>
      rw [List.map_cons, List.findSome?_cons]
      unfold HostBuffer.pda
      rw [getOffsetPda]
      cases searchNodes p 0 h.sglist with
      | none => exact ih
      | some offset => rfl

/-- So does the sysfs build. -/
theorem getOffset_eq (p : Word64) (hosts : List HostBuffer) :
    getOffset p (hosts.map HostBuffer.sysfs) =
      hosts.findSome? fun h => (Buffer.searchPhysAddr p 0 h.sglist).map (h.bufferId, ·) := by
  induction hosts with
  | nil => rfl
  | cons h rest ih =>
      rw [List.map_cons, List.findSome?_cons]
      unfold HostBuffer.sysfs
      rw [getOffset, Buffer.physAddrToOffset_eq h.reads]
      cases Buffer.searchPhysAddr p 0 h.sglist with
      | none => exact ih
      | some offset => rfl

end BarImplSim

theorem Translatable.of_append {l l' : List ScatterGatherEntry} (ok : Translatable (l ++ l')) :
    Translatable l ∧ Translatable l' ∧ ∀ e ∈ l, ∀ f ∈ l', ∀ p, e.Covers p → ¬f.Covers p := by
  obtain ⟨left, right, apart⟩ := List.pairwise_append.mp ok.disjoint
  exact ⟨⟨fun e mem => ok.noWrap e (List.mem_append_left _ mem), left⟩,
    ⟨fun e mem => ok.noWrap e (List.mem_append_right _ mem), right⟩, apart⟩

namespace HostBuffer

variable {hosts : List HostBuffer} {p : Word64}

theorem translatable (ok : Translatable (hosts.flatMap HostBuffer.sglist)) {h : HostBuffer}
    (mem : h ∈ hosts) : Translatable h.sglist := by
  induction hosts with
  | nil => exact absurd mem (List.not_mem_nil)
  | cons h' rest ih =>
      rw [List.flatMap_cons] at ok
      obtain ⟨here, later, -⟩ := ok.of_append
      rcases List.mem_cons.mp mem with rfl | mem
      · exact here
      · exact ih later mem

/-- A search that succeeds in the one buffer with the address finds it. -/
theorem findSome_of_mem (ok : Translatable (hosts.flatMap HostBuffer.sglist)) {h : HostBuffer}
    (mem : h ∈ hosts) {e : ScatterGatherEntry} (inList : e ∈ h.sglist) (covered : e.Covers p)
    {search : List ScatterGatherEntry → Option Word64}
    (fails : ∀ l, Translatable l → (search l = none ↔ ∀ f ∈ l, ¬f.Covers p)) :
    (hosts.findSome? fun h => (search h.sglist).map (h.bufferId, ·)) =
      (search h.sglist).map (h.bufferId, ·) := by
  induction hosts with
  | nil => exact absurd mem (List.not_mem_nil)
  | cons h' rest ih =>
      rw [List.flatMap_cons] at ok
      obtain ⟨here, later, apart⟩ := ok.of_append
      rw [List.findSome?_cons]
      rcases List.mem_cons.mp mem with rfl | mem
      · cases found : search h.sglist with
        | none => exact absurd covered ((fails _ here).mp found e inList)
        | some offset => rfl
      · have missed : search h'.sglist = none := (fails _ here).mpr fun f inF coveredF =>
          apart f inF e (List.mem_flatMap.mpr ⟨h, mem, inList⟩) p coveredF covered
        rw [missed]
        exact ih later mem

/-- No buffer has the address, and the search fails. -/
theorem findSome_none (ok : Translatable (hosts.flatMap HostBuffer.sglist))
    (outside : ∀ h ∈ hosts, p ∉ sgBytes h.sglist)
    {search : List ScatterGatherEntry → Option Word64}
    (fails : ∀ l, Translatable l → (search l = none ↔ ∀ f ∈ l, ¬f.Covers p)) :
    (hosts.findSome? fun h => (search h.sglist).map (h.bufferId, ·)) = none := by
  rw [List.findSome?_eq_none_iff]
  intro h mem
  have ok := translatable ok mem
  have missed := (fails _ ok).mpr fun e inList covered =>
    outside h mem (ok.mem_sgBytes_iff.mpr ⟨e, inList, covered⟩)
  rw [missed]
  rfl

end HostBuffer

/-- Where the sysfs build finds an address there is a byte of the buffer. -/
theorem Translatable.byte_of_searchPhysAddr {l : List ScatterGatherEntry} (ok : Translatable l)
    {p offset : Word64} (found : Buffer.searchPhysAddr p 0 l = some offset) :
    (sgBytes l)[offset.toNat]? = some p := by
  obtain ⟨k, byte, rfl⟩ := Buffer.searchPhysAddr_some ok found
  have small : k < 2 ^ 64 := Nat.lt_trans (Buffer.lt_sgTotal_of_byte byte) ok.sgTotal_lt
  rw [zero_add, BitVec.natCast_eq_ofNat, BitVec.toNat_ofNat, Nat.mod_eq_of_lt small]
  exact byte

/-- Segments before one with the address do not have it. -/
theorem Translatable.passed {front back : List ScatterGatherEntry} {e : ScatterGatherEntry}
    (ok : Translatable (front ++ e :: back)) {p : Word64} (covered : e.Covers p) :
    ∀ f ∈ front, ¬f.Covers p := fun f mem coveredF =>
  ok.of_append.2.2 f mem e List.mem_cons_self p coveredF covered

open HostBuffer BarImplSim in
/-- Both builds agree on an address exactly when the segments before its own in
the buffer are empty. -/
theorem getOffset_buildsAgree_iff {hosts : List HostBuffer}
    (ok : Translatable (hosts.flatMap HostBuffer.sglist)) (p : Word64) :
    BuildsAgree hosts p ↔
      ∀ h ∈ hosts, ∀ front e back, h.sglist = front ++ e :: back → e.Covers p →
        ∀ f ∈ front, f.length = 0 := by
  have failsPda := fun l (ok : Translatable l) => searchNodes_eq_none_iff ok p 0
  have failsSysfs := fun l (ok : Translatable l) => Buffer.searchPhysAddr_eq_none_iff ok p 0
  unfold BuildsAgree
  rw [getOffsetPda_eq, getOffset_eq]
  constructor
  · rintro ⟨inside, -⟩ h mem front e back split covered
    have okList := translatable ok mem
    have inList : e ∈ h.sglist := split ▸ List.mem_append_right _ List.mem_cons_self
    cases found : Buffer.searchPhysAddr p 0 h.sglist with
    | none => exact absurd covered ((failsSysfs _ okList).mp found e inList)
    | some offset =>
        have same := (inside h mem offset (okList.byte_of_searchPhysAddr found)).1
        rw [findSome_of_mem ok mem inList covered failsPda, Option.map_eq_some_iff] at same
        obtain ⟨offset', foundPda, pair⟩ := same
        obtain rfl : offset' = offset := (Prod.mk.inj pair).2
        rw [split] at okList found foundPda
        exact (walks_agree_iff okList (okList.passed covered) covered).mp
          (foundPda.trans found.symm)
  · intro empty
    refine ⟨fun h mem offset byte => ?_, fun outside =>
      ⟨findSome_none ok outside failsPda, findSome_none ok outside failsSysfs⟩⟩
    have okList := translatable ok mem
    obtain ⟨e, inList, covered⟩ := okList.mem_sgBytes_iff.mp (List.mem_of_getElem? byte)
    obtain ⟨front, back, split⟩ := List.append_of_mem inList
    have found := Buffer.searchPhysAddr_of_byte okList byte
    have foundPda : searchNodes p 0 h.sglist = some offset := by
      rw [split] at okList found ⊢
      exact ((walks_agree_iff okList (okList.passed covered) covered).mpr
        (empty h mem front e back split covered)).trans found
    rw [findSome_of_mem ok mem inList covered failsPda,
      findSome_of_mem ok mem inList covered failsSysfs, found, foundPda]
    exact ⟨rfl, rfl⟩

/-- A buffer of two segments of eight bytes. -/
def twoSegments : HostBuffer where
  bufferId := 5
  sglist := [⟨0x1000, 8⟩, ⟨0x2000, 8⟩]
  buffer := .connect (.sysfs (some [⟨8, 0x1000⟩, ⟨8, 0x2000⟩])) 16
  reads := rfl

theorem getOffset_buildsAgree_iff_first :
    HostBuffer.BuildsAgree [twoSegments] 0x1004 ↔
      ∀ h ∈ [twoSegments], ∀ front e back, h.sglist = front ++ e :: back →
        e.Covers 0x1004 → ∀ f ∈ front, f.length = 0 :=
  getOffset_buildsAgree_iff
    { noWrap := by decide
      disjoint := by
        show List.Pairwise _ [(⟨0x1000, 8⟩ : ScatterGatherEntry), ⟨0x2000, 8⟩]
        simp only [ScatterGatherEntry.Covers, List.pairwise_cons, List.forall_mem_cons]
        simp
        omega } 0x1004

/-- In the second segment the PDA build is off by seven eighths of the first. -/
theorem not_buildsAgree_second : ¬ HostBuffer.BuildsAgree [twoSegments] 0x2000 := by
  rintro ⟨inside, -⟩
  have byte : (sgBytes twoSegments.sglist)[(8 : Word64).toNat]? = some 0x2000 := by decide
  have same := (inside twoSegments List.mem_cons_self 8 byte).1
  exact absurd same (by decide)

end Librorc
