import Librorc.Event.Delivery

/-!
# `getRingbufferFillCount`

The count is the distance from the release index to the receive index. The
receive index is the slot of the last delivery, the release index the slot of
the next release: the distance is one less than the number of deliveries in
between, and goes round the whole ring when there is none.
-/

namespace Librorc

open Librorc.Lib

variable {ring : ReportRing}

def EventStream.getRingbufferFillCount (s : EventStream ring) : Nat :=
  if s.receiveIndex = eventIndexUndefined then 0
  else if s.releaseIndex ≤ s.receiveIndex then s.receiveIndex - s.releaseIndex
  else ring.maxRbEntries - (s.releaseIndex - s.receiveIndex)

namespace RingRun

/-- The deliveries the release index has not passed. -/
def held (s : RingRun ring) : Nat := s.delivered.length - s.frontier

/-- The fill count is the number of deliveries held. -/
structure CountsHeld (s : RingRun ring) : Prop where
  count : s.stream.getRingbufferFillCount = s.held
  zero : s.stream.getRingbufferFillCount = 0 ↔ s.outstanding = []
  one : s.held = 1 → s.stream.getRingbufferFillCount = 1

/-- Nothing was delivered, and the stream knows it. -/
def Undelivered (s : RingRun ring) : Prop :=
  s.stream.receiveIndex = eventIndexUndefined ∧ s.outstanding = []

theorem Undelivered.countsHeld {s : RingRun ring} (nothing : s.delivered = [])
    (undelivered : s.Undelivered) : s.CountsHeld := by
  have empty : s.stream.getRingbufferFillCount = 0 := if_pos undelivered.1
  have none : s.held = 0 := by rw [held, nothing, List.length_nil, Nat.zero_sub]
  exact
    { count := by rw [empty, none]
      zero := iff_of_true empty undelivered.2
      one := by
        intro one
        rw [none] at one
        cases one }

/-- Before the first delivery the receive index is undefined, whatever has been
released. -/
theorem undelivered_of_nil {s : RingRun ring}
    (reached : (ringSystem ring).Reached (fun _ _ => True) s) :
    s.delivered = [] → s.Undelivered := by
  refine @ActionSystem.Reached.invariant _ _ _ _ _ (fun s => s.delivered = [] → s.Undelivered)
    ?_ ?_ reached
  · rintro s ⟨page, ch, eb, rb, esType, pciePacketSize, -, -, rfl⟩ -
    exact ⟨rfl, rfl⟩
  · intro s a s' kept _ taken nothing
    cases a with
    | deviceWrite d =>
        simp only [ringSystem, step] at taken
        split at taken
        · obtain rfl := Option.some.inj taken
          exact kept nothing
        · cases taken
    | getNextEvent =>
        simp only [ringSystem, step, EventStream.getNextEvent] at taken
        split at taken
        · rename_i found
          split at found
          · obtain rfl := Option.some.inj taken
            obtain ⟨-, rfl⟩ := Prod.mk.inj found
            exact kept nothing
          · cases congrArg Prod.fst found
        · obtain rfl := Option.some.inj taken
          cases List.append_eq_nil_iff.mp nothing |>.2
    | releaseEvent reference =>
        obtain rfl := Option.some.inj taken
        obtain ⟨undefined, none⟩ := kept nothing
        refine ⟨?_, by simp [none]⟩
        rw [← undefined]
        simp only [EventStream.releaseEvent]
        split
        · rfl
        · simp only [EventStream.updateBufferOffsets]
          split <;> rfl

end RingRun

/-- After the first delivery the count is one short, and a whole ring less one
when nothing is held. -/
theorem EventStream.fillCount_ofLedger (base : DmaChannel) (L : RingLedger ring)
    (some : 0 < L.delivered) :
    (ofLedger base L).getRingbufferFillCount =
      if L.frontier = L.delivered then ring.maxRbEntries - 1 else L.delivered - L.frontier - 1 := by
  have front := L.frontier_le
  have delivered := L.delivered_le
  have bounded := L.lt_frontier_add
  have receive : (ofLedger base L).receiveIndex = (L.delivered - 1) % ring.maxRbEntries :=
    if_neg (by omega)
  have defined : (L.delivered - 1) % ring.maxRbEntries ≠ eventIndexUndefined := by
    have slot := Nat.mod_lt (L.delivered - 1) ring.maxRbEntries_pos
    have small := ring.maxRbEntries_lt
    unfold eventIndexUndefined
    omega
  have distance : (ofLedger base L).getRingbufferFillCount =
      cyclicDistance ring.maxRbEntries (L.frontier % ring.maxRbEntries)
        ((L.delivered - 1) % ring.maxRbEntries) := by
    unfold getRingbufferFillCount
    rw [receive, if_neg defined]
    rfl
  rw [distance]
  split
  · rename_i level
    -- the last slot delivered is the one before the next release
    have behind : (L.delivered - 1) % ring.maxRbEntries =
        (L.frontier + (ring.maxRbEntries - 1)) % ring.maxRbEntries := by
      rw [← Nat.add_mod_right (L.delivered - 1)]
      congr 1
      omega
    rw [behind, cyclicDistance_mod (by omega) (by omega)]
    omega
  · rw [cyclicDistance_mod (by omega) (by omega)]
    omega

/-- **The fill count.** As long as nothing has been delivered, the count is
right in every run. On a ring of two slots or more, in a run whose releases are
outstanding or refused, the release index is the slot of the oldest delivery
held, and the count is right only as long as nothing has been delivered. -/
theorem fillCount_counts_iff :
    (∀ s : RingRun ring, (ringSystem ring).Reached (fun _ _ => True) s →
      s.delivered = [] → s.CountsHeld) ∧
    (2 ≤ ring.maxRbEntries → ∀ s : RingRun ring,
      (ringSystem ring).Reached RingRun.Checked s →
        s.stream.releaseIndex = s.frontier % ring.maxRbEntries ∧
          (s.CountsHeld ↔ s.delivered = [])) := by
  constructor
  · intro s reached nothing
    exact RingRun.Undelivered.countsHeld nothing (RingRun.undelivered_of_nil reached nothing)
  · intro slots s reached
    obtain ⟨base, L, t⟩ := tracked reached
    have oldest := t.frontier_eq
    constructor
    · rw [t.stream, oldest]
      rfl
    · constructor
      · intro counts
        by_contra delivered
        have some : 0 < L.delivered := by
          rw [← t.length_delivered]
          exact List.length_pos_of_ne_nil delivered
        have count := counts.count
        rw [t.stream, EventStream.fillCount_ofLedger base L some, RingRun.held,
          t.length_delivered, oldest] at count
        have front := L.frontier_le
        have written := L.delivered_le
        have bounded := L.lt_frontier_add
        split at count
        · omega
        · omega
      · intro nothing
        exact RingRun.Undelivered.countsHeld nothing
          (RingRun.undelivered_of_nil (reached.mono fun _ _ _ => trivial) nothing)

/-- One event is fetched and none counted. -/
theorem fillCount_miscounts :
    ¬∀ (ring : ReportRing) (s : RingRun ring), (ringSystem ring).Reached RingRun.Disciplined s →
      s.CountsHeld := by
  intro counts
  obtain ⟨s, ran, reached⟩ := fetchOne_reached
  have history : ((ringSystem fourSlotRing).run fourSlotStart fetchOne).map
      (fun s => (s.stream.getRingbufferFillCount, s.held)) = some (0, 1) := by decide
  rw [ran] at history
  obtain ⟨count, held⟩ := Prod.mk.inj (Option.some.inj history)
  have one := (counts fourSlotRing s reached).one held
  rw [count] at one
  cases one

end Librorc
