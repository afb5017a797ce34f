import Librorc.Dma.Compose

/-!
# Entries and the segments they lie in

`composeSglistFromBufferSegment` takes the distance to the next page boundary
for the length of an entry without asking whether the segment reaches it. The
turns of its loop are listed with the segment each lookup found; a turn runs
past the end of its segment exactly when the segment ends before both the page
and the request do.
-/

namespace Librorc

namespace Buffer

/-- The segment `offsetToPhysAddr` stops at, and the position in it. -/
def segmentAt (offset : Word64) :
    Word64 → List ScatterGatherEntry → Option (ScatterGatherEntry × Word64)
  | _, [] => none
  | ref, e :: rest =>
      if ref ≤ offset ∧ offset < ref + e.length then some (e, offset - ref)
      else segmentAt offset (ref + e.length) rest

/-- A turn of the loop: what is left of the request, and what the lookup of
the current offset finds. -/
structure ComposeTurn where
  remSize : Word64
  segment : ScatterGatherEntry
  position : Word64
deriving DecidableEq

namespace ComposeTurn

def physAddr (t : ComposeTurn) : Word64 := t.segment.pointer + t.position

/-- The remaining length `offsetToPhysAddr` reports. -/
def remaining (t : ComposeTurn) : Word64 := t.segment.length - t.position

/-- The entry the turn appends. -/
def entry (page : PageSize) (t : ComposeTurn) : ScatterGatherEntry :=
  ⟨t.physAddr, composeLength page t.physAddr t.remaining t.remSize⟩

/-- The entry ends no later than the segment its address lies in. -/
def StaysInside (page : PageSize) (t : ComposeTurn) : Prop :=
  t.position.toNat + (t.entry page).length.toNat ≤ t.segment.length.toNat

/-- The address is on a page boundary, or the segment reaches the next one, or
what is left of the request ends within the segment. -/
def ReachesBoundary (page : PageSize) (t : ComposeTurn) : Prop :=
  t.physAddr.toNat % page.bytes = 0 ∨
    page.bytes - t.physAddr.toNat % page.bytes ≤ t.remaining.toNat ∨
    t.remSize.toNat ≤ t.remaining.toNat

instance (page : PageSize) (t : ComposeTurn) : Decidable (t.StaysInside page) :=
  inferInstanceAs (Decidable (_ ≤ _))

/-- The lookup found a position inside the segment. -/
def Found (l : List ScatterGatherEntry) (t : ComposeTurn) : Prop :=
  t.segment ∈ l ∧ t.position.toNat < t.segment.length.toNat

theorem staysInside_iff {page : PageSize} {l : List ScatterGatherEntry} {t : ComposeTurn}
    (found : t.Found l) : t.StaysInside page ↔ t.ReachesBoundary page := by
  have left : t.remaining.toNat = t.segment.length.toNat - t.position.toNat :=
    BitVec.toNat_sub_of_le (Nat.le_of_lt found.2)
  have inside := found.2
  rw [ReachesBoundary, ← composeLength_le_iff, StaysInside, entry, left]
  simp only
  omega

end ComposeTurn

/-- The turns of the loop on the list `l` of a buffer of `size` bytes. -/
def composeTurns (page : PageSize) (l : List ScatterGatherEntry) (size : Word64) :
    Nat → Word64 → Word64 → List ComposeTurn
  | 0, _, _ => []
  | fuel + 1, remSize, curOffset =>
      if remSize = 0 then []
      else
        match segmentAt curOffset 0 l with
        | none => []
        | some (segment, position) =>
            let turn : ComposeTurn := ⟨remSize, segment, position⟩
            let length := (turn.entry page).length
            let next := curOffset + length
            turn :: composeTurns page l size fuel (remSize - length)
              (if next = size then 0 else next)

/-! ## The turns are those of the loop -/

theorem searchOffset_eq_segmentAt (offset ref : Word64) (l : List ScatterGatherEntry) :
    searchOffset offset ref l =
      (segmentAt offset ref l).map fun p => (p.1.pointer + p.2, p.1.length - p.2) := by
  induction l generalizing ref with
  | nil => rfl
  | cons e rest ih =>
      rw [searchOffset, segmentAt]
      split
      · rfl
      · exact ih _

/-- Whatever the running offset does, the position found is inside the
segment. -/
theorem segmentAt_some {offset ref position : Word64} {l : List ScatterGatherEntry}
    {segment : ScatterGatherEntry} (found : segmentAt offset ref l = some (segment, position)) :
    segment ∈ l ∧ position.toNat < segment.length.toNat := by
  induction l generalizing ref with
  | nil => simp [segmentAt] at found
  | cons e rest ih =>
      rw [segmentAt] at found
      split at found
      · rename_i inside
        obtain ⟨low, high⟩ := inside
        obtain ⟨rfl, rfl⟩ := Prod.mk.inj (Option.some.inj found)
        exact ⟨List.mem_cons_self, by bv_omega⟩
      · obtain ⟨member, before⟩ := ih found
        exact ⟨List.mem_cons_of_mem _ member, before⟩

theorem composeTurns_found (page : PageSize) (l : List ScatterGatherEntry) (size : Word64)
    (fuel : ℕ) (remSize curOffset : Word64) :
    ∀ t ∈ composeTurns page l size fuel remSize curOffset, t.Found l := by
  induction fuel generalizing remSize curOffset with
  | zero => simp [composeTurns]
  | succ fuel ih =>
      rw [composeTurns]
      split
      · simp
      · cases found : segmentAt curOffset 0 l with
        | none => simp
        | some p => exact List.forall_mem_cons.mpr ⟨segmentAt_some found, ih _ _⟩

/-- A lookup on the buffer is a search of its list; a failed read leaves
nothing to find. -/
theorem offsetToPhysAddr_fst (b : Buffer) (offset : Word64) :
    (b.offsetToPhysAddr offset).1 = searchOffset offset 0 b.readList := by
  cases read : b.source.read with
  | none => simp [offsetToPhysAddr, ensureSglist_of_failed read, readList, read, searchOffset]
  | some l => rw [offsetToPhysAddr_eq read, readList_of_read read]

theorem offsetToPhysAddr_snd (b : Buffer) (offset : Word64) :
    (b.offsetToPhysAddr offset).2.readList = b.readList ∧
      (b.offsetToPhysAddr offset).2.size = b.size := by
  cases read : b.source.read with
  | none =>
      simp [offsetToPhysAddr, ensureSglist_of_failed read, readList, read, connect]
  | some l => simp [offsetToPhysAddr_eq read, readList, loaded]

/-- A turn takes at least one byte of the request, and not more than is
left. -/
theorem ComposeTurn.entry_length (page : PageSize) {l : List ScatterGatherEntry} {t : ComposeTurn}
    (found : t.Found l) (pending : t.remSize ≠ 0) :
    0 < (t.entry page).length.toNat ∧ (t.entry page).length.toNat ≤ t.remSize.toNat := by
  have inside := found.2
  have left : t.remaining ≠ 0 := by
    rw [ComposeTurn.remaining]
    bv_omega
  obtain ⟨positive, atMost, -⟩ := composeLength_bounds page t.physAddr left pending
  exact ⟨positive, atMost⟩

/-- One turn of the loop. -/
theorem composeLoop_step (page : PageSize) (b : Buffer) {t : ComposeTurn} {curOffset : Word64}
    (found : segmentAt curOffset 0 b.readList = some (t.segment, t.position))
    (pending : t.remSize ≠ 0) (fuel : ℕ) (list : List ScatterGatherEntry) :
    ∃ b' : Buffer, b'.readList = b.readList ∧ b'.size = b.size ∧
      composeLoop page (fuel + 1) b t.remSize curOffset list =
        composeLoop page fuel b' (t.remSize - (t.entry page).length)
          (if curOffset + (t.entry page).length = b.size then 0
            else curOffset + (t.entry page).length)
          (list ++ [t.entry page]) := by
  have lookup := b.offsetToPhysAddr_fst curOffset
  obtain ⟨sameList, sameSize⟩ := b.offsetToPhysAddr_snd curOffset
  rw [searchOffset_eq_segmentAt, found] at lookup
  refine ⟨(b.offsetToPhysAddr curOffset).2, sameList, sameSize, ?_⟩
  obtain ⟨result, b', split⟩ : ∃ result b', b.offsetToPhysAddr curOffset = (result, b') :=
    ⟨_, _, rfl⟩
  rw [split] at lookup sameSize ⊢
  obtain rfl : result = some (t.physAddr, t.remaining) := lookup
  rw [composeLoop, if_neg pending, split, ← sameSize]
  rfl

/-- The loop ends and appends the entries of its turns. Induction on the fuel;
every turn takes a byte at least. -/
theorem composeLoop_turns (page : PageSize) (b : Buffer) {fuel : ℕ} {remSize : Word64}
    (enough : remSize.toNat ≤ fuel) (curOffset : Word64) (list : List ScatterGatherEntry) :
    ∃ ok b', composeLoop page fuel b remSize curOffset list =
      some ((ok, list ++ (composeTurns page b.readList b.size fuel remSize curOffset).map
        (ComposeTurn.entry page)), b') := by
  induction fuel generalizing b remSize curOffset list with
  | zero =>
      have done : remSize = 0 := BitVec.eq_of_toNat_eq (by simpa using enough)
      exact ⟨true, b, by simp [composeLoop, composeTurns, done]⟩
  | succ fuel ih =>
      by_cases done : remSize = 0
      · exact ⟨true, b, by simp [composeLoop, composeTurns, done]⟩
      · cases found : segmentAt curOffset 0 b.readList with
        | none =>
            have lookup := b.offsetToPhysAddr_fst curOffset
            rw [searchOffset_eq_segmentAt, found, Option.map_none] at lookup
            refine ⟨false, (b.offsetToPhysAddr curOffset).2, ?_⟩
            rw [composeLoop, if_neg done, composeTurns, if_neg done, found]
            obtain ⟨result, b', split⟩ : ∃ result b', b.offsetToPhysAddr curOffset = (result, b') :=
              ⟨_, _, rfl⟩
            rw [split] at lookup ⊢
            obtain rfl : result = none := lookup
            simp
        | some p =>
            obtain ⟨b', sameList, sameSize, step⟩ :=
              composeLoop_step page b (t := ⟨remSize, p.1, p.2⟩) found done fuel list
            have taken := ComposeTurn.entry_length page (t := ⟨remSize, p.1, p.2⟩)
              (segmentAt_some found) done
            obtain ⟨ok, b'', finished⟩ := ih b'
              (by rw [BitVec.toNat_sub_of_le taken.2]; simp only; omega) _ _
            refine ⟨ok, b'', ?_⟩
            rw [step, finished, composeTurns, if_neg done, found, sameList, sameSize]
            simp

/-- The turns `composeSglistFromBufferSegment` makes. -/
def turnsOf (page : PageSize) (b : Buffer) (offset size : Word64) : List ComposeTurn :=
  composeTurns page b.readList b.size size.toNat size offset

/-- **Entries and segments.** The entries appended are those of the turns, a
turn's address lies in the segment its lookup found, and no entry runs past
the end of its segment exactly when every turn starts on a page boundary, or
in a segment that reaches the next one, or in one that outlasts the request. -/
theorem compose_staysInside_iff (page : PageSize) (b : Buffer) (offset size : Word64)
    (list : List ScatterGatherEntry) :
    (∃ ok b', b.composeSglistFromBufferSegment page offset size list =
      some ((ok, list ++ (turnsOf page b offset size).map (ComposeTurn.entry page)), b')) ∧
    (∀ t ∈ turnsOf page b offset size, t.Found b.readList) ∧
    ((∀ t ∈ turnsOf page b offset size, t.StaysInside page) ↔
      ∀ t ∈ turnsOf page b offset size, t.ReachesBoundary page) := by
  have found := composeTurns_found page b.readList b.size size.toNat size offset
  refine ⟨composeLoop_turns page b (Nat.le_refl _) offset list, found, ?_⟩
  exact forall₂_congr fun t member => ComposeTurn.staysInside_iff (found t member)

/-- A buffer of 0x900 bytes in one segment: the request of 0x20 bytes at 0x8f0
is told as one entry, 0x10 bytes past the end. -/
theorem compose_overruns :
    ¬ ∀ (page : PageSize) (b : Buffer) (offset size : Word64),
      (∀ e ∈ b.readList, e.length ≠ 0) →
        ∀ t ∈ turnsOf page b offset size, t.StaysInside page := by
  intro inside
  have turn : (⟨0x20, ⟨0x10000, 0x900⟩, 0x8f0⟩ : ComposeTurn) ∈
      turnsOf .fourKiB (connect (.pda (some [⟨0x10000, 0x900⟩])) 0x900) 0x8f0 0x20 := by decide
  exact absurd (inside _ _ _ _ (by decide) _ turn) (by decide)

end Buffer
end Librorc
