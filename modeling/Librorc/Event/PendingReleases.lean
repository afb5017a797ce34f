import Librorc.Event.FillCount
import Mathlib.Data.Nat.Count

/-!
# `getNumberOfPendingReleases`

The function counts the marks of the release map. A mark stands for a delivery
that was given back ahead of an older one, so what is counted are releases that
wait for the release index, not deliveries that wait for their release.
-/

namespace Librorc

open Librorc.Lib

variable {ring : ReportRing}

def EventStream.getNumberOfPendingReleases (s : EventStream ring) : Nat :=
  Nat.count (fun i => s.releaseMap i = true) ring.maxRbEntries

/-- "The number of events that were received but not released yet". -/
def RingRun.CountsOutstanding (s : RingRun ring) : Prop :=
  s.stream.getNumberOfPendingReleases = s.outstanding.length

namespace Tracks

variable {base : DmaChannel} {L : RingLedger ring} {s : RingRun ring}

theorem held_eq (t : Tracks base L s) : s.held = L.delivered - L.frontier := by
  rw [RingRun.held, t.length_delivered, t.frontier_eq]

/-- The marks are the numbers given back from the frontier on. -/
theorem pendingReleases_eq (t : Tracks base L s) :
    s.stream.getNumberOfPendingReleases =
      ((Finset.Ico L.frontier L.delivered).filter (· ∈ L.returned)).card := by
  have delivered := L.delivered_le
  have bounded := L.lt_frontier_add
  have marked : (Finset.range ring.maxRbEntries).filter (fun i => s.stream.releaseMap i = true) =
      (Finset.range ring.maxRbEntries).filter
        fun i => slotNumber ring.maxRbEntries L.frontier i ∈ L.returned := by
    apply Finset.filter_congr
    intro i member
    rw [t.stream, EventStream.ofLedger_releaseMap_iff,
      and_iff_right (Finset.mem_range.mp member)]
  have window := card_filter_slotNumber ring.maxRbEntries L.frontier (· ∈ L.returned)
  rw [EventStream.getNumberOfPendingReleases, Nat.count_eq_card_filter_range, marked, window]
  congr 1
  ext k
  simp only [Finset.mem_filter, Finset.mem_Ico]
  constructor
  · rintro ⟨⟨low, -⟩, back⟩
    exact ⟨⟨low, L.returned_lt k back⟩, back⟩
  · rintro ⟨⟨low, below⟩, back⟩
    exact ⟨⟨low, by omega⟩, back⟩

/-- Below the frontier everything is back. -/
theorem outstanding_length (t : Tracks base L s) :
    s.outstanding.length =
      ((Finset.Ico L.frontier L.delivered).filter (· ∉ L.returned)).card := by
  have numbers : s.outstanding.toFinset =
      (Finset.Ico L.frontier L.delivered).filter (· ∉ L.returned) := by
    ext k
    rw [List.mem_toFinset, t.mem_outstanding, Finset.mem_filter, Finset.mem_Ico]
    constructor
    · rintro ⟨below, out⟩
      exact ⟨⟨Ledger.frontier_le_of_notMem out, below⟩, out⟩
    · rintro ⟨⟨-, below⟩, out⟩
      exact ⟨below, out⟩
  have distinct : s.outstanding.Nodup := by
    rw [t.outstanding]
    exact List.nodup_range.filter _
  rw [← numbers, List.toFinset_card_of_nodup distinct]

/-- Every delivery held is either counted or outstanding. -/
theorem pendingReleases_add (t : Tracks base L s) :
    s.stream.getNumberOfPendingReleases + s.outstanding.length = s.held := by
  rw [t.pendingReleases_eq, t.outstanding_length, t.held_eq,
    Finset.card_filter_add_card_filter_not, Nat.card_Ico]

end Tracks

/-- **Pending releases.** In a run whose releases are outstanding or refused, the
count is the number of deliveries the release index has not passed, less those
outstanding. It is the number of those outstanding exactly when they are half of
the deliveries held. -/
theorem pendingReleases_counts_iff {s : RingRun ring}
    (reached : (ringSystem ring).Reached RingRun.Checked s) :
    s.stream.getNumberOfPendingReleases = s.held - s.outstanding.length ∧
      (s.CountsOutstanding ↔ s.held = 2 * s.outstanding.length) := by
  obtain ⟨base, L, t⟩ := tracked reached
  have total := t.pendingReleases_add
  unfold RingRun.CountsOutstanding
  constructor
  · omega
  · constructor
    · intro count
      omega
    · intro half
      omega

/-- Of two events held one is outstanding and one is back. -/
theorem pendingReleases_counts_iff_aroundTheRing :
    ∃ s, (ringSystem fourSlotRing).run fourSlotStart aroundTheRing = some s ∧
      s.stream.getNumberOfPendingReleases = 1 ∧ s.CountsOutstanding := by
  obtain ⟨s, ran, history⟩ := Option.map_eq_some_iff.mp
    (show ((ringSystem fourSlotRing).run fourSlotStart aroundTheRing).map
      (fun s => (s.held, s.outstanding.length)) = some (2, 1) by decide)
  obtain ⟨held, outstanding⟩ := Prod.mk.inj history
  have reached := (fourSlot_reached (by decide) ran).mono RingRun.Disciplined.checked
  obtain ⟨count, exactly⟩ := pendingReleases_counts_iff reached
  rw [held, outstanding] at count exactly
  exact ⟨s, ran, count, exactly.mpr rfl⟩

/-- One event is fetched and not released: the count is 0. -/
theorem pendingReleases_miscounts :
    ¬∀ (ring : ReportRing) (s : RingRun ring), (ringSystem ring).Reached RingRun.Disciplined s →
      s.CountsOutstanding := by
  intro counts
  obtain ⟨s, ran, reached⟩ := fetchOne_reached
  have history : ((ringSystem fourSlotRing).run fourSlotStart fetchOne).map
      (fun s => (s.stream.getNumberOfPendingReleases, s.outstanding.length)) = some (0, 1) := by
    decide
  rw [ran] at history
  obtain ⟨count, outstanding⟩ := Prod.mk.inj (Option.some.inj history)
  have same := counts fourSlotRing s reached
  rw [RingRun.CountsOutstanding, count, outstanding] at same
  cases same

end Librorc
