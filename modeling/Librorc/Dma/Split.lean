import Librorc.Dma.Configure

/-!
# Splitting long segments

`prepareSgList` is two nested loops over the buffer's list; `splitSegment` is
what the inner one pushes for a segment. `CutFrom` says what the pieces of one
segment are: the segment itself below 4 GiB, else chunks of 4 GiB less a page
and a rest.
-/

namespace Librorc

open Librorc.Lib

namespace DmaChannel

variable {page : PageSize}

/-! ## The loops -/

/-- `while( rem_size>>32 )` and the push behind it, with the list pushed so
far; `none` when it is still running after `fuel` tests. -/
def splitLoop (page : PageSize) :
    Nat → Word64 → Word64 → List ScatterGatherEntry → Option (List ScatterGatherEntry)
  | 0, _, _, _ => none
  | fuel + 1, curOffset, remSize, newlist =>
      if remSize >>> 32 ≠ 0 then
        let length := (1#64 <<< 32) - page.word
        splitLoop page fuel (curOffset + length) (remSize - length)
          (newlist ++ [⟨curOffset, length⟩])
      else some (newlist ++ [⟨curOffset, remSize⟩])

/-- The loop over the segments. -/
def prepareLoop (page : PageSize) :
    List ScatterGatherEntry → List ScatterGatherEntry → Option (List ScatterGatherEntry)
  | [], newlist => some newlist
  | e :: rest, newlist =>
      match splitLoop page (e.length.toNat + 1) e.pointer e.length newlist with
      | none => none
      | some newlist' => prepareLoop page rest newlist'

/-- A turn takes at least a byte, so as many turns as bytes are enough. -/
theorem splitLoop_eq (page : PageSize) {fuel : ℕ} {curOffset remSize : Word64}
    (enough : remSize.toNat ≤ fuel) (newlist : List ScatterGatherEntry) :
    splitLoop page (fuel + 1) curOffset remSize newlist =
      some (newlist ++ splitSegment page fuel curOffset remSize) := by
  have small := page.bytes_le
  have positive := page.bytes_pos
  induction fuel generalizing curOffset remSize newlist with
  | zero =>
      have empty : remSize = 0 := BitVec.eq_of_toNat_eq (by simpa using enough)
      simp [splitLoop, splitSegment, empty]
  | succ fuel ih =>
      rw [splitLoop, splitSegment]
      by_cases long : remSize >>> 32 ≠ 0
      · have atLeast := shiftRight_32_ne_zero_iff.mp long
        have rest := @rest_toNat page _ atLeast
        rw [if_pos long, if_pos long, ih (by omega), List.append_assoc]
        rfl
      · rw [if_neg long, if_neg long]

theorem prepareLoop_eq (page : PageSize) (l newlist : List ScatterGatherEntry) :
    prepareLoop page l newlist = some (newlist ++ prepareSgList page l) := by
  induction l generalizing newlist with
  | nil => simp [prepareLoop, prepareSgList]
  | cons e rest ih =>
      rw [prepareLoop, splitLoop_eq page (Nat.le_refl _)]
      simp only
      rw [ih, prepareSgList_cons, List.append_assoc]

/-! ## Where a segment is cut -/

theorem eq_of_getElem?_singleton {e piece : ScatterGatherEntry} {k : ℕ}
    (single : [e][k]? = some piece) : k = 0 ∧ piece = e := by
  rw [List.getElem?_singleton] at single
  split at single
  · rename_i first
    exact ⟨first, (Option.some.inj single).symm⟩
  · exact absurd single (by simp)

/-- The pieces start one chunk after the other, and all but the last are whole
chunks. -/
theorem splitSegment_getElem? (page : PageSize) (fuel : ℕ) (curOffset remSize : Word64) {k : ℕ}
    {piece : ScatterGatherEntry}
    (atK : (splitSegment page fuel curOffset remSize)[k]? = some piece) :
    piece.pointer = curOffset + ((k * (2 ^ 32 - page.bytes) : ℕ) : Word64) ∧
      (k + 1 < (splitSegment page fuel curOffset remSize).length →
        piece.length.toNat = 2 ^ 32 - page.bytes) := by
  induction fuel generalizing curOffset remSize k with
  | zero =>
      obtain ⟨rfl, rfl⟩ := eq_of_getElem?_singleton atK
      exact ⟨by simp, fun more => absurd more (by simp [splitSegment])⟩
  | succ fuel ih =>
      rw [splitSegment] at atK ⊢
      by_cases long : remSize >>> 32 ≠ 0
      · rw [if_pos long] at atK ⊢
        cases k with
        | zero =>
            obtain rfl := Option.some.inj atK
            exact ⟨by simp, fun _ => page.fourGiB_sub_word_toNat⟩
        | succ k =>
            rw [List.getElem?_cons_succ] at atK
            obtain ⟨start, full⟩ := ih _ _ atK
            refine ⟨?_, fun more => full (by simpa using more)⟩
            rw [start, fourGiB_sub_page_eq_cast, add_assoc, ← Nat.cast_add, Nat.succ_mul,
              Nat.add_comm]
      · rw [if_neg long] at atK ⊢
        obtain ⟨rfl, rfl⟩ := eq_of_getElem?_singleton atK
        exact ⟨by simp, fun more => absurd more (by simp)⟩

/-- Chunks are whole pages, so pieces of a page-aligned segment start on
pages. -/
theorem chunk_aligned {curOffset : Word64} (aligned : page.bytes ∣ curOffset.toNat) (k : ℕ) :
    page.bytes ∣ (curOffset + ((k * (2 ^ 32 - page.bytes) : ℕ) : Word64)).toNat := by
  have wraps : page.bytes ∣ 2 ^ 64 := Nat.dvd_trans page.bytes_dvd (by omega)
  have chunk : page.bytes ∣ 2 ^ 32 - page.bytes := Nat.dvd_sub page.bytes_dvd (Nat.dvd_refl _)
  rw [BitVec.toNat_add, BitVec.natCast_eq_ofNat, BitVec.toNat_ofNat, Nat.dvd_mod_iff wraps]
  exact Nat.dvd_add aligned ((Nat.dvd_mod_iff wraps).mpr (Nat.dvd_mul_left_of_dvd chunk k))

/-- A segment and the list it is cut into. -/
structure CutFrom (page : PageSize) (whole : ScatterGatherEntry)
    (pieces : List ScatterGatherEntry) : Prop where
  bytes : sgBytes pieces = whole.seg.bytes
  starts : ∀ (k : ℕ) (piece : ScatterGatherEntry), pieces[k]? = some piece →
    piece.pointer = whole.pointer + ((k * (2 ^ 32 - page.bytes) : ℕ) : Word64)
  chunks : ∀ (k : ℕ) (piece : ScatterGatherEntry), pieces[k]? = some piece →
    k + 1 < pieces.length → piece.length.toNat = 2 ^ 32 - page.bytes
  aligned : page.bytes ∣ whole.pointer.toNat → ∀ piece ∈ pieces, page.bytes ∣ piece.pointer.toNat
  nonempty : whole.length ≠ 0 → ∀ piece ∈ pieces, piece.length ≠ 0
  short : whole.length.toNat < 2 ^ 32 → pieces = [whole]

theorem splitSegment_cutFrom (page : PageSize) (e : ScatterGatherEntry) :
    CutFrom page e (splitSegment page e.length.toNat e.pointer e.length) where
  bytes := splitSegment_bytes _ _ _
  starts := fun _ _ atK => (splitSegment_getElem? page _ _ _ atK).1
  chunks := fun _ _ atK => (splitSegment_getElem? page _ _ _ atK).2
  aligned := by
    intro aligned piece member
    obtain ⟨k, atK⟩ := List.mem_iff_getElem?.mp member
    rw [(splitSegment_getElem? page _ _ _ atK).1]
    exact chunk_aligned aligned k
  nonempty := splitSegment_nonempty
  short := splitSegment_short_eq page e.pointer

/-- **Splitting.** The loops end; the list they push maps every offset where
the buffer's list maps it, consists of the pieces of its segments, and loses
nothing in the 32-bit length register. -/
theorem prepareSgList_splits (page : PageSize) (l : List ScatterGatherEntry) :
    prepareLoop page l [] = some (prepareSgList page l) ∧
      (∀ o, (locate (sgSegs (prepareSgList page l)) o).map Prod.fst =
        (locate (sgSegs l) o).map Prod.fst) ∧
      (∃ pieces : ScatterGatherEntry → List ScatterGatherEntry,
        prepareSgList page l = l.flatMap pieces ∧ ∀ e ∈ l, CutFrom page e (pieces e)) ∧
      (∀ e ∈ prepareSgList page l, e.length.toNat < 2 ^ 32 ∧ e.ramEntry.seg = e.seg) := by
  have bytes := @prepareSgList_bytes page l
  refine ⟨prepareLoop_eq page l [], ?_, ⟨_, rfl, fun e _ => splitSegment_cutFrom page e⟩, ?_⟩
  · intro o
    rw [locate_fst, locate_fst]
    exact congrArg (·[o]?) bytes
  · intro e member
    have short := prepareSgList_short page l e member
    exact ⟨short, ramEntry_seg short⟩

end DmaChannel
end Librorc
