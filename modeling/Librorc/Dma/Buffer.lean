import Librorc.Dma.Device
import Librorc.Lib.Segments

/-!
# `librorc::buffer`: scatter-gather lists and address lookup

Both build variants read a kernel-side list: the PDA build copies its nodes,
the sysfs build joins neighbouring entries first (`coalesceFrom`). Everything
else works on `m_sglist_vector`. A read that fails (size query or mapping) is
`none`.
-/

namespace Librorc

open Librorc.Lib

/-- `ScatterGatherEntry`. -/
structure ScatterGatherEntry where
  pointer : Word64
  length : Word64
deriving DecidableEq

/-- The part of the kernel's `struct scatter` the library reads. -/
structure Scatter where
  length : Word32
  dmaAddress : Word64
deriving DecidableEq

/-- The segment an entry describes. -/
def ScatterGatherEntry.seg (e : ScatterGatherEntry) : Seg Word64 :=
  ⟨e.pointer, e.length.toNat⟩

/-- The address map of a list of entries. -/
def sgSegs (l : List ScatterGatherEntry) : List (Seg Word64) := l.map ScatterGatherEntry.seg

/-- Physical addresses of the bytes a list describes, in order. -/
def sgBytes (l : List ScatterGatherEntry) : List Word64 := segBytes (sgSegs l)

/-- Number of bytes a list describes. -/
def sgTotal (l : List ScatterGatherEntry) : Nat := segTotal (sgSegs l)

@[simp] theorem sgSegs_nil : sgSegs [] = [] := rfl

@[simp] theorem sgSegs_cons (e : ScatterGatherEntry) (l : List ScatterGatherEntry) :
    sgSegs (e :: l) = e.seg :: sgSegs l := rfl

@[simp] theorem sgSegs_append (l l' : List ScatterGatherEntry) :
    sgSegs (l ++ l') = sgSegs l ++ sgSegs l' := by
  simp [sgSegs]

@[simp] theorem sgBytes_nil : sgBytes [] = [] := rfl

@[simp] theorem sgBytes_cons (e : ScatterGatherEntry) (l : List ScatterGatherEntry) :
    sgBytes (e :: l) = e.seg.bytes ++ sgBytes l := rfl

@[simp] theorem sgBytes_append (l l' : List ScatterGatherEntry) :
    sgBytes (l ++ l') = sgBytes l ++ sgBytes l' := by
  simp [sgBytes]

@[simp] theorem length_sgBytes (l : List ScatterGatherEntry) :
    (sgBytes l).length = sgTotal l := length_segBytes _

@[simp] theorem sgTotal_nil : sgTotal [] = 0 := rfl

@[simp] theorem sgTotal_cons (e : ScatterGatherEntry) (l : List ScatterGatherEntry) :
    sgTotal (e :: l) = e.length.toNat + sgTotal l := by
  simp [sgTotal, ScatterGatherEntry.seg]

/-! ## Reading the list -/

/-- The condition under which the joining loop takes the next kernel entry
`next` into `entry`, whose last joined kernel entry is `sglist[i]`. -/
def joins (entry : ScatterGatherEntry) (last next : Scatter) : Bool :=
  entry.pointer + entry.length == next.dmaAddress &&
    decide (entry.length + last.length.setWidth 64 < 0xffffffff#64)

/-- The two nested loops of `initializeSglist` (sysfs build). `entry` is the
entry under construction and `last` is `sglist[i]`; the list holds
`sglist[i+1 ..]`. -/
def coalesceFrom (entry : ScatterGatherEntry) (last : Scatter) :
    List Scatter → List ScatterGatherEntry
  | [] => [entry]
  | next :: rest =>
      if joins entry last next then
        coalesceFrom { entry with length := entry.length + next.length.setWidth 64 } next rest
      else
        entry :: coalesceFrom ⟨next.dmaAddress, next.length.setWidth 64⟩ next rest

def coalesce : List Scatter → List ScatterGatherEntry
  | [] => []
  | first :: rest => coalesceFrom ⟨first.dmaAddress, first.length.setWidth 64⟩ first rest

/-- Where `initializeSglist` reads from; `none` when the read fails. -/
inductive SgSource
  | pda (nodes : Option (List ScatterGatherEntry))
  | sysfs (entries : Option (List Scatter))

/-- The list a successful read leaves in `m_sglist_vector`. -/
def SgSource.read : SgSource → Option (List ScatterGatherEntry)
  | .pda nodes => nodes
  | .sysfs entries => entries.map coalesce

/-- `librorc::buffer`, as far as its sg list and its size go. Once the list is
marked as read, the members are what the read returned. -/
structure Buffer where
  source : SgSource
  size : Word64
  sglistVector : List ScatterGatherEntry
  sglistInitialized : Bool
  numberOfScatterGatherEntries : Nat
  coherent : sglistInitialized = true →
    source.read = some sglistVector ∧ numberOfScatterGatherEntries = sglistVector.length

namespace Buffer

/-- A buffer after its constructor: connected, list not read yet. -/
def connect (source : SgSource) (size : Word64) : Buffer where
  source := source
  size := size
  sglistVector := []
  sglistInitialized := false
  numberOfScatterGatherEntries := 0
  coherent := by simp

def getPhysicalSize (b : Buffer) : Word64 := b.size

def initializeSglist (b : Buffer) : Int × Buffer :=
  match h : b.source.read with
  | none => (-1, connect b.source b.size)
  | some list =>
      (0, { b with
        sglistVector := list
        numberOfScatterGatherEntries := list.length
        sglistInitialized := true
        coherent := fun _ => ⟨h, rfl⟩ })

/-- `if(!m_sglist_initialized) { initializeSglist(); }`, with its result. -/
def ensureSglist (b : Buffer) : Int × Buffer :=
  if b.sglistInitialized then (0, b) else b.initializeSglist

def sgList (b : Buffer) : List ScatterGatherEntry × Buffer :=
  let b' := b.ensureSglist.2
  (b'.sglistVector, b')

def getnSGEntries (b : Buffer) : Nat × Buffer :=
  let b' := b.ensureSglist.2
  (b'.numberOfScatterGatherEntries, b')

/-- The search loop of `offsetToPhysAddr`; `ref` is `reference_offset`. -/
def searchOffset (offset : Word64) : Word64 → List ScatterGatherEntry → Option (Word64 × Word64)
  | _, [] => none
  | ref, e :: rest =>
      if ref ≤ offset ∧ offset < ref + e.length then
        some (e.pointer + (offset - ref), e.length - (offset - ref))
      else
        searchOffset offset (ref + e.length) rest

/-- Physical address and remaining segment length at `offset`. -/
def offsetToPhysAddr (b : Buffer) (offset : Word64) : Option (Word64 × Word64) × Buffer :=
  let (result, b') := b.ensureSglist
  if result ≠ 0 then (none, b') else (searchOffset offset 0 b'.sglistVector, b')

/-- The search loop of `physAddrToOffset`. -/
def searchPhysAddr (physAddr : Word64) : Word64 → List ScatterGatherEntry → Option Word64
  | _, [] => none
  | ref, e :: rest =>
      if e.pointer ≤ physAddr ∧ physAddr < e.pointer + e.length then
        some (ref + (physAddr - e.pointer))
      else
        searchPhysAddr physAddr (ref + e.length) rest

/-- Buffer offset of a physical address. -/
def physAddrToOffset (b : Buffer) (physAddr : Word64) : Option Word64 × Buffer :=
  let (result, b') := b.ensureSglist
  if result ≠ 0 then (none, b') else (searchPhysAddr physAddr 0 b'.sglistVector, b')

/-- Length of the entry one turn of the `composeSglistFromBufferSegment` loop
appends: up to the page boundary when `phys` is inside a page, else the rest
of the segment, cut to 32 bits and to the remaining size. -/
def composeLength (page : PageSize) (phys segmentLength remSize : Word64) : Word64 :=
  let pageMask := page.word - 1
  let toBoundary :=
    if phys &&& pageMask ≠ 0 then page.word - (phys &&& pageMask) else segmentLength
  let clamped :=
    if toBoundary >>> 32 ≠ 0 then (1#64 <<< 32) - page.word else toBoundary
  if remSize ≤ clamped then remSize else clamped

/-- The loop of `composeSglistFromBufferSegment`, `none` when it is still
running after `fuel` turns. -/
def composeLoop (page : PageSize) :
    Nat → Buffer → Word64 → Word64 → List ScatterGatherEntry →
      Option ((Bool × List ScatterGatherEntry) × Buffer)
  | fuel, b, remSize, curOffset, list =>
      if remSize = 0 then some ((true, list), b)
      else
        match fuel with
        | 0 => none
        | fuel + 1 =>
            match b.offsetToPhysAddr curOffset with
            | (none, b') => some ((false, list), b')
            | (some (phys, segmentLength), b') =>
                let length := composeLength page phys segmentLength remSize
                let next := curOffset + length
                let wrapped := if next = b'.getPhysicalSize then 0 else next
                composeLoop page fuel b' (remSize - length) wrapped (list ++ [⟨phys, length⟩])

/-- Every turn takes at least one byte, so `size` turns are enough. -/
def composeSglistFromBufferSegment (page : PageSize) (b : Buffer) (offset size : Word64)
    (list : List ScatterGatherEntry) : Option ((Bool × List ScatterGatherEntry) × Buffer) :=
  composeLoop page size.toNat b size offset list

/-! ## What the members hold -/

/-- The list the buffer works with: what a read returns, nothing if it
fails. -/
def readList (b : Buffer) : List ScatterGatherEntry := b.source.read.getD []

theorem readList_of_read {b : Buffer} {l : List ScatterGatherEntry}
    (has : b.source.read = some l) : b.readList = l := by
  rw [readList, has, Option.getD_some]

/-- The buffer once its list is read. -/
def loaded (b : Buffer) {l : List ScatterGatherEntry} (has : b.source.read = some l) : Buffer where
  source := b.source
  size := b.size
  sglistVector := l
  sglistInitialized := true
  numberOfScatterGatherEntries := l.length
  coherent := fun _ => ⟨has, rfl⟩

variable {b : Buffer} {l : List ScatterGatherEntry}

/-- Whoever needs the list first loads it; later calls find it loaded. -/
theorem ensureSglist_eq (has : b.source.read = some l) :
    b.ensureSglist = (0, b.loaded has) := by
  obtain ⟨source, size, vector, initialized, number, coherent⟩ := b
  cases initialized with
  | true =>
      obtain ⟨same, rfl⟩ := coherent rfl
      obtain rfl : vector = l := Option.some.inj (same.symm.trans has)
      rfl
  | false =>
      simp only [Buffer.ensureSglist, Bool.false_eq_true, if_false, initializeSglist]
      split
      · rename_i failed
        rw [failed] at has
        exact absurd has (by simp)
      · rename_i list read
        obtain rfl : list = l := Option.some.inj (read.symm.trans has)
        rfl

/-- A failed read leaves an empty list behind. -/
theorem ensureSglist_of_failed (failed : b.source.read = none) :
    b.ensureSglist = (-1, connect b.source b.size) := by
  obtain ⟨source, size, vector, initialized, number, coherent⟩ := b
  cases initialized with
  | true =>
      obtain ⟨same, -⟩ := coherent rfl
      rw [failed] at same
      exact absurd same (by simp)
  | false =>
      simp only [Buffer.ensureSglist, Bool.false_eq_true, if_false, initializeSglist]
      split
      · rfl
      · rename_i list read
        rw [failed] at read
        exact absurd read (by simp)

theorem ensureSglist_source (b : Buffer) : b.ensureSglist.2.source = b.source := by
  cases read : b.source.read with
  | none => rw [ensureSglist_of_failed read]; rfl
  | some l => rw [ensureSglist_eq read]; rfl

theorem sgList_snd_size (b : Buffer) : b.sgList.2.size = b.size := by
  cases read : b.source.read with
  | none => simp [sgList, ensureSglist_of_failed read, connect]
  | some l => simp [sgList, ensureSglist_eq read, loaded]

theorem sgList_fst (b : Buffer) : b.sgList.1 = b.readList := by
  cases read : b.source.read with
  | none => simp [sgList, readList, ensureSglist_of_failed read, read, connect]
  | some l => simp [sgList, readList, ensureSglist_eq read, read, loaded]

theorem getnSGEntries_fst (b : Buffer) : b.getnSGEntries.1 = b.readList.length := by
  cases read : b.source.read with
  | none => simp [getnSGEntries, readList, ensureSglist_of_failed read, read, connect]
  | some l => simp [getnSGEntries, readList, ensureSglist_eq read, read, loaded]

theorem sgList_snd_readList (b : Buffer) : b.sgList.2.readList = b.readList := by
  simp [sgList, readList, ensureSglist_source]

theorem offsetToPhysAddr_eq (has : b.source.read = some l) (offset : Word64) :
    b.offsetToPhysAddr offset = (searchOffset offset 0 l, b.loaded has) := by
  simp [Buffer.offsetToPhysAddr, ensureSglist_eq has, Buffer.loaded]

theorem physAddrToOffset_eq (has : b.source.read = some l) (physAddr : Word64) :
    b.physAddrToOffset physAddr = (searchPhysAddr physAddr 0 l, b.loaded has) := by
  simp [Buffer.physAddrToOffset, ensureSglist_eq has, Buffer.loaded]

/-! ## The search loop looks the offset up in the address map -/

/-- As long as the running `reference_offset` cannot overflow, the loop is
`locate`. -/
theorem searchOffset_eq_locate (offset ref : Word64) (l : List ScatterGatherEntry)
    (fits : ref.toNat + sgTotal l < 2 ^ 64) (reached : ref ≤ offset) :
    searchOffset offset ref l =
      (locate (sgSegs l) (offset.toNat - ref.toNat)).map fun p => (p.1, BitVec.ofNat 64 p.2) := by
  induction l generalizing ref with
  | nil => rfl
  | cons e rest ih =>
      rw [sgTotal_cons] at fits
      have reachedNat : ref.toNat ≤ offset.toNat := reached
      have next : (ref + e.length).toNat = ref.toNat + e.length.toNat := by
        rw [BitVec.toNat_add]
        exact Nat.mod_eq_of_lt (by omega)
      have diff : (offset - ref).toNat = offset.toNat - ref.toNat :=
        BitVec.toNat_sub_of_le reached
      by_cases inside : offset.toNat - ref.toNat < e.length.toNat
      · have taken : ref ≤ offset ∧ offset < ref + e.length :=
          ⟨reached, by rw [BitVec.lt_def, next]; omega⟩
        have left : e.length - (offset - ref) =
            BitVec.ofNat 64 (e.length.toNat - (offset.toNat - ref.toNat)) := by
          apply BitVec.eq_of_toNat_eq
          rw [BitVec.toNat_sub_of_le (by rw [BitVec.le_def]; omega), diff, BitVec.toNat_ofNat,
            Nat.mod_eq_of_lt (by omega)]
        have address : offset - ref = ((offset.toNat - ref.toNat : ℕ) : Word64) := by
          apply BitVec.eq_of_toNat_eq
          rw [diff]
          exact (Nat.mod_eq_of_lt (by omega)).symm
        simp only [searchOffset, if_pos taken, sgSegs_cons, locate, ScatterGatherEntry.seg,
          if_pos inside, Option.map_some, left]
        rw [address]
      · have passed : ¬(ref ≤ offset ∧ offset < ref + e.length) := by
          rintro ⟨-, below⟩
          rw [BitVec.lt_def, next] at below
          omega
        simp only [searchOffset, if_neg passed, sgSegs_cons, locate, ScatterGatherEntry.seg,
          if_neg inside]
        rw [ih (ref + e.length) (by rw [next]; omega)
          (by rw [BitVec.le_def, next]; omega), next, Nat.sub_add_eq]

/-- The search as `offsetToPhysAddr` starts it. -/
theorem searchOffset_zero (fits : sgTotal l < 2 ^ 64) (offset : Word64) :
    searchOffset offset 0 l =
      (locate (sgSegs l) offset.toNat).map fun p => (p.1, BitVec.ofNat 64 p.2) := by
  have search := searchOffset_eq_locate offset 0 l (by simpa using fits)
    (BitVec.le_def.mpr (Nat.zero_le _))
  rwa [show (0 : Word64).toNat = 0 from rfl, Nat.sub_zero] at search

end Buffer
end Librorc
