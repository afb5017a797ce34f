import Librorc.Event.Stream

/-!
# The reclaiming loop of `updateBufferOffsets`

The loop clears marks one by one, collects descriptors into a batch and clears
a batch at a time, at the wrap-around and at the end. `ReleaseScan.flushed`
hides the batching: seen through it, a turn clears one mark and one
descriptor. `Scanned` is the loop invariant in closed form and `pass` what the
whole call does; the loop always stops, after at most one lap.
-/

namespace Librorc

open Librorc.Lib

variable {ring : ReportRing}

theorem clearReports_zero (reports : Nat → EventDescriptor) (start : Nat) :
    clearReports reports start 0 = reports := by
  funext i
  exact if_neg (by omega)

theorem clearReports_succ (reports : Nat → EventDescriptor) (start count : Nat) :
    clearReports reports start (count + 1) =
      Function.update (clearReports reports start count) (start + count) .zero := by
  funext i
  by_cases last : i = start + count
  · subst last
    rw [Function.update_self, clearReports, if_pos (by omega)]
  · rw [Function.update_of_ne last]
    simp only [clearReports]
    congr 1
    apply propext
    omega

namespace ReleaseScan

/-- The reports once the pending batch is cleared as well. -/
def flushed (v : ReleaseScan) : Nat → EventDescriptor :=
  clearReports v.reports v.releaseIndexStart v.releaseIndexCount

/-- The pending batch ends where the loop stands. -/
def Contiguous (v : ReleaseScan) : Prop :=
  v.releaseIndexStart + v.releaseIndexCount = v.releaseIndex

/-- The slot the loop looks at next has not been cleared. -/
theorem Contiguous.flushed_self {v : ReleaseScan} (batch : v.Contiguous) :
    v.flushed v.releaseIndex = v.reports v.releaseIndex := by
  unfold Contiguous at batch
  exact if_neg (by omega)

end ReleaseScan

namespace EventStream

/-! ## One turn -/

theorem scanTurn_releaseIndex (v : ReleaseScan) :
    (scanTurn ring v).releaseIndex = cyclicNext ring.maxRbEntries v.releaseIndex := by
  simp only [scanTurn]
  split <;> rfl

theorem scanTurn_releaseMap (v : ReleaseScan) :
    (scanTurn ring v).releaseMap = Function.update v.releaseMap v.releaseIndex false := by
  simp only [scanTurn]
  split <;> rfl

theorem scanTurn_eventBufferOffset (v : ReleaseScan) :
    (scanTurn ring v).eventBufferOffset = (v.reports v.releaseIndex).offset := by
  simp only [scanTurn]
  split <;> rfl

theorem scanTurn_reportBufferOffset (v : ReleaseScan) :
    (scanTurn ring v).reportBufferOffset = BitVec.ofNat 64
      ((v.releaseIndex * DmaChannel.sizeofEventDescriptor) % ring.physicalSize) := by
  simp only [scanTurn]
  split <;> rfl

/-- With or without a wrap-around, a turn clears the descriptor it stands
on. -/
theorem scanTurn_flushed {v : ReleaseScan} (batch : v.Contiguous) :
    (scanTurn ring v).flushed = Function.update v.flushed v.releaseIndex .zero := by
  have cleared := clearReports_succ v.reports v.releaseIndexStart v.releaseIndexCount
  rw [show v.releaseIndexStart + v.releaseIndexCount = v.releaseIndex from batch] at cleared
  simp only [scanTurn]
  split
  · simp only [ReleaseScan.flushed, clearReports_zero, cleared]
  · exact cleared

theorem scanTurn_contiguous {v : ReleaseScan} (batch : v.Contiguous) :
    (scanTurn ring v).Contiguous := by
  unfold ReleaseScan.Contiguous at batch ⊢
  simp only [scanTurn]
  split
  · rename_i wrapped
    simp [wrapped]
  · rename_i inside
    have step : cyclicNext ring.maxRbEntries v.releaseIndex = v.releaseIndex + 1 := by
      unfold cyclicNext at inside ⊢
      split at inside
      · rename_i below
        exact if_pos below
      · exact absurd rfl inside
    simp only [step]
    omega

/-! ## The invariant of the loop -/

/-- After `m` turns from index `start`: `m` marks and `m` descriptors are
cleared, and the offsets are those of the last slot passed. -/
structure Scanned (ring : ReportRing) (releaseMap : Nat → Bool) (reports : Nat → EventDescriptor)
    (start m : Nat) (v : ReleaseScan) : Prop where
  index : v.releaseIndex = (start + m) % ring.maxRbEntries
  map : v.releaseMap = clearFrom releaseMap false ring.maxRbEntries start m
  flushed : v.flushed = clearFrom reports .zero ring.maxRbEntries start m
  contiguous : v.Contiguous
  offsets : 0 < m →
    v.eventBufferOffset = (reports ((start + (m - 1)) % ring.maxRbEntries)).offset ∧
    v.reportBufferOffset = BitVec.ofNat 64
      (((start + (m - 1)) % ring.maxRbEntries) * DmaChannel.sizeofEventDescriptor)

variable {releaseMap : Nat → Bool} {reports : Nat → EventDescriptor} {start m : Nat}
  {v : ReleaseScan}

/-- The slot in front of the loop still holds what it held at the start. -/
theorem Scanned.front (scanned : Scanned ring releaseMap reports start m v)
    (lap : m < ring.maxRbEntries) :
    v.releaseMap v.releaseIndex = releaseMap ((start + m) % ring.maxRbEntries) ∧
      v.reports v.releaseIndex = reports ((start + m) % ring.maxRbEntries) := by
  constructor
  · rw [scanned.map, scanned.index, clearFrom_next _ _ _ lap]
  · rw [← scanned.contiguous.flushed_self, scanned.flushed, scanned.index,
      clearFrom_next _ _ _ lap]

theorem Scanned.turn (scanned : Scanned ring releaseMap reports start m v)
    (lap : m < ring.maxRbEntries) :
    Scanned ring releaseMap reports start (m + 1) (scanTurn ring v) where
  index := by
    rw [scanTurn_releaseIndex, scanned.index, cyclicNext_mod ring.maxRbEntries_pos, Nat.add_assoc]
  map := by rw [scanTurn_releaseMap, scanned.map, scanned.index, clearFrom_succ]
  flushed := by
    rw [scanTurn_flushed scanned.contiguous, scanned.flushed, scanned.index, clearFrom_succ]
  contiguous := scanTurn_contiguous scanned.contiguous
  offsets _ := by
    have inside := ring.slot_offset_lt (Nat.mod_lt (start + m) ring.maxRbEntries_pos)
    rw [scanTurn_eventBufferOffset, (scanned.front lap).2, scanTurn_reportBufferOffset,
      scanned.index, Nat.mod_eq_of_lt inside, Nat.add_sub_cancel]
    exact ⟨rfl, rfl⟩

/-- The loop stops after at most one lap, at the first slot without a mark. -/
theorem scan_spec (fuel : Nat) (scanned : Scanned ring releaseMap reports start m v)
    (atMost : m ≤ ring.maxRbEntries) (enough : ring.maxRbEntries ≤ m + fuel)
    (marked : ∀ i < m, releaseMap ((start + i) % ring.maxRbEntries) = true) :
    ∃ k ≤ ring.maxRbEntries, m ≤ k ∧
      Scanned ring releaseMap reports start k (scan ring fuel v) ∧
      (∀ i < k, releaseMap ((start + i) % ring.maxRbEntries) = true) ∧
      (k < ring.maxRbEntries → releaseMap ((start + k) % ring.maxRbEntries) = false) := by
  induction fuel generalizing m v with
  | zero => exact ⟨m, atMost, Nat.le_refl m, scanned, marked, fun lap => by omega⟩
  | succ fuel ih =>
      rw [scan]
      by_cases lap : m < ring.maxRbEntries
      · have front := (scanned.front lap).1
        cases mark : v.releaseMap v.releaseIndex with
        | true =>
            have marked' : ∀ i < m + 1,
                releaseMap ((start + i) % ring.maxRbEntries) = true := by
              intro i below
              rcases Nat.lt_succ_iff_lt_or_eq.mp below with below | rfl
              · exact marked i below
              · rw [← front, mark]
            obtain ⟨k, atMost, later, rest⟩ := ih (scanned.turn lap) lap (by omega) marked'
            exact ⟨k, atMost, by omega, rest⟩
        | false => exact ⟨m, atMost, Nat.le_refl m, scanned, marked, fun _ => by rw [← front, mark]⟩
      · -- a full lap: the slot in front was the first one cleared
        have full : m = ring.maxRbEntries := by omega
        have positive := ring.maxRbEntries_pos
        have cleared : v.releaseMap v.releaseIndex = false := by
          rw [scanned.map, scanned.index]
          exact if_pos ⟨0, by omega, by rw [full, Nat.add_mod_right, Nat.add_zero]⟩
        rw [cleared]
        exact ⟨m, atMost, Nat.le_refl m, scanned, marked, fun lap => by omega⟩

/-! ## The whole call -/

/-- The stream after reclaiming the next `m` slots. -/
def pass (s : EventStream ring) (m : Nat) : EventStream ring :=
  if m = 0 then s
  else
    let last := (s.releaseIndex + (m - 1)) % ring.maxRbEntries
    { s with
      releaseIndex := (s.releaseIndex + m) % ring.maxRbEntries
      releaseMap := clearFrom s.releaseMap false ring.maxRbEntries s.releaseIndex m
      reports := clearFrom s.reports .zero ring.maxRbEntries s.releaseIndex m
      channel := s.channel.setBufferOffsetsOnDevice (s.reports last).offset
        (BitVec.ofNat 64 (last * DmaChannel.sizeofEventDescriptor))
      releaseOffset := (s.reports last).offset }

/-- `updateBufferOffsets` passes over the marked slots from the release index
on, as far as they go. -/
theorem updateBufferOffsets_spec (s : EventStream ring)
    (inside : s.releaseIndex < ring.maxRbEntries) :
    ∃ m ≤ ring.maxRbEntries, s.updateBufferOffsets = s.pass m ∧
      (∀ i < m, s.releaseMap ((s.releaseIndex + i) % ring.maxRbEntries) = true) ∧
      (m < ring.maxRbEntries →
        s.releaseMap ((s.releaseIndex + m) % ring.maxRbEntries) = false) := by
  have here : (s.releaseIndex + 0) % ring.maxRbEntries = s.releaseIndex := Nat.mod_eq_of_lt inside
  unfold updateBufferOffsets
  cases mark : s.releaseMap s.releaseIndex with
  | false =>
      refine ⟨0, Nat.zero_le _, ?_, by simp, fun _ => by rw [here, mark]⟩
      simp [pass]
  | true =>
      have entry : Scanned ring s.releaseMap s.reports s.releaseIndex 0
          { releaseIndex := s.releaseIndex, releaseMap := s.releaseMap, reports := s.reports
            eventBufferOffset := 0, reportBufferOffset := 0
            releaseIndexStart := s.releaseIndex, releaseIndexCount := 0 } :=
        { index := here.symm
          map := (clearFrom_zero _ _ _ _).symm
          flushed := by rw [clearFrom_zero]; exact clearReports_zero _ _
          contiguous := rfl
          offsets := fun none => absurd none (Nat.lt_irrefl 0) }
      obtain ⟨m, atMost, -, scanned, marked, stops⟩ :=
        scan_spec ring.maxRbEntries entry (Nat.zero_le _) (by omega) (by simp)
      have some : 0 < m := by
        rcases Nat.eq_zero_or_pos m with rfl | some
        · have unmarked := stops ring.maxRbEntries_pos
          rw [here, mark] at unmarked
          cases unmarked
        · exact some
      obtain ⟨eventOffset, reportOffset⟩ := scanned.offsets some
      refine ⟨m, atMost, ?_, marked, stops⟩
      rw [if_neg (by simp), pass, if_neg (by omega)]
      simp only [scanned.index, scanned.map, eventOffset, reportOffset, ← scanned.flushed]
      rfl

/-- References behind the ring are refused. -/
theorem releaseEvent_of_le (s : EventStream ring) {reference : Nat}
    (outside : ring.maxRbEntries ≤ reference) : s.releaseEvent reference = (-1, s) :=
  if_pos outside

end EventStream
end Librorc
