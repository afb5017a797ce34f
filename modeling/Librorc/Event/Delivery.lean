import Librorc.Event.Ring

/-!
# What the ring promises

Delivery in order without loss or duplication, the effect of one release, and
the independence of the order of releases: each is a statement about the
ledger that tracks the run.
-/

namespace Librorc

open Librorc.Lib

variable {ring : ReportRing}

/-- Disciplined runs keep the weaker discipline too. -/
theorem RingRun.Disciplined.checked (s : RingRun ring) (a : RingAction)
    (disciplined : s.Disciplined a) : s.Checked a := by
  cases a with
  | releaseEvent reference => exact .inl disciplined
  | deviceWrite d => trivial
  | getNextEvent => trivial

namespace Tracks

variable {base : DmaChannel} {L : RingLedger ring} {s : RingRun ring}

/-- The slot the device writes next holds no number in use. -/
theorem writeSlot_free (t : Tracks base L s)
    (room : L.written.length + 1 < L.frontier + ring.maxRbEntries) {k : Nat}
    (low : L.frontier ≤ k) (high : k < L.written.length) :
    k % ring.maxRbEntries ≠ s.writeSlot := by
  rw [t.writeSlot]
  intro same
  have := eq_of_window same low (by omega) (by omega) (by omega)
  omega

theorem getElem?_written (t : Tracks base L s) {k : Nat} (inside : k < L.written.length) :
    s.written[k]? = some (k % ring.maxRbEntries, descriptorAt L.written k) := by
  rw [t.written, getElem?_slotted inside]

/-- What was written and not delivered yet, by number. -/
theorem mem_undelivered (t : Tracks base L s) {w : Nat × EventDescriptor}
    (mem : w ∈ s.written.drop s.delivered.length) :
    ∃ k, L.delivered ≤ k ∧ k < L.written.length ∧
      w = (k % ring.maxRbEntries, descriptorAt L.written k) := by
  obtain ⟨i, inside, rfl⟩ := List.mem_iff_getElem.mp mem
  rw [List.length_drop, t.length_delivered, t.length_written] at inside
  refine ⟨L.delivered + i, by omega, by omega, ?_⟩
  have found := t.getElem?_written (show L.delivered + i < L.written.length by omega)
  rw [List.getElem_drop, ← Option.some.injEq, ← List.getElem?_eq_getElem, ← found,
    t.length_delivered]

end Tracks

/-- **In-order delivery.** In every disciplined run, what `getNextEvent` has
delivered is a prefix of what the device has written, slot for slot and
descriptor for descriptor; the next call delivers the next descriptor, and
fails exactly when none is left; and the device never writes a slot whose
descriptor is undelivered or not given back. -/
theorem ring_delivers_in_order {s : RingRun ring}
    (reached : (ringSystem ring).Reached RingRun.Disciplined s) :
    s.delivered <+: s.written ∧
    (s.stream.getNextEvent.1 = none ↔ s.delivered.length = s.written.length) ∧
    (∀ event, s.stream.getNextEvent.1 = some event →
      s.written[s.delivered.length]? = some (event.reference, event.report)) ∧
    (∀ d s', s.step (.deviceWrite d) = some s' →
      (∀ w ∈ s.written.drop s.delivered.length, w.1 ≠ s.writeSlot) ∧
        ¬s.Outstanding s.writeSlot) := by
  obtain ⟨base, L, t⟩ := tracked (reached.mono RingRun.Disciplined.checked)
  have delivered := L.delivered_le
  have front := L.frontier_le
  rw [t.length_delivered, t.length_written]
  refine ⟨?_, ?_, ?_, ?_⟩
  · rw [t.delivered, t.written]
    exact List.take_prefix _ _
  · rw [t.stream]
    by_cases more : L.delivered < L.written.length
    · rw [EventStream.getNextEvent_ofLedger more]
      exact iff_of_false (by simp) (by omega)
    · rw [EventStream.getNextEvent_ofLedger_empty (by omega)]
      exact iff_of_true rfl (by omega)
  · intro event
    rw [t.stream]
    by_cases more : L.delivered < L.written.length
    · rw [EventStream.getNextEvent_ofLedger more]
      rintro found
      obtain rfl := Option.some.inj found
      exact t.getElem?_written more
    · rw [EventStream.getNextEvent_ofLedger_empty (by omega)]
      rintro found
      exact absurd found (by simp)
  · intro d s' taken
    obtain ⟨-, -, room⟩ := t.write taken
    constructor
    · intro w mem
      obtain ⟨k, low, high, rfl⟩ := t.mem_undelivered (by rwa [t.length_delivered])
      exact t.writeSlot_free room (by omega) high
    · rw [t.outstanding_iff]
      rintro ⟨k, below, out, slot⟩
      exact t.writeSlot_free room (Ledger.frontier_le_of_notMem out) (by omega) slot

/-! ## One run -/

/-- Four slots of 32 bytes. -/
def fourSlotRing : ReportRing := ⟨128, by decide, by decide⟩

/-- The ring right after `initializeDmaChannel`. -/
def fourSlotStart : RingRun fourSlotRing where
  stream := EventStream.initial fourSlotRing (initializeDmaChannel .fourKiB sixteenEntryChannel
    (some (oneSegmentBuffer 0x10000 0x2000)) (some (oneSegmentBuffer 0x40000 0x80)) .toHost 256).2
  writeSlot := 0
  written := []
  delivered := []
  outstanding := []

theorem fourSlotStart_initial : fourSlotStart.Initial :=
  ⟨_, _, _, oneSegmentBuffer 0x40000 0x80, _, _, by decide, by decide, rfl⟩

/-- A descriptor of an event of `size` words at `offset`. -/
def descriptorOf (offset : Word64) (size : Word32) : EventDescriptor := ⟨offset, size, size, 0, 0⟩

theorem fourSlot_reached {acts : List RingAction}
    (keeps : (ringSystem fourSlotRing).Keeps RingRun.Disciplined fourSlotStart acts)
    {s : RingRun fourSlotRing} (ran : (ringSystem fourSlotRing).run fourSlotStart acts = some s) :
    (ringSystem fourSlotRing).Reached RingRun.Disciplined s :=
  (ActionSystem.Reached.init fourSlotStart_initial).run keeps ran

/-- One event is written and fetched. -/
def fetchOne : List RingAction := [.deviceWrite (descriptorOf 0x100 16), .getNextEvent]

theorem fetchOne_reached : ∃ s, (ringSystem fourSlotRing).run fourSlotStart fetchOne = some s ∧
    (ringSystem fourSlotRing).Reached RingRun.Disciplined s := by
  obtain ⟨s, ran⟩ := Option.isSome_iff_exists.mp
    (show ((ringSystem fourSlotRing).run fourSlotStart fetchOne).isSome = true by decide)
  exact ⟨s, ran, fourSlot_reached (by decide) ran⟩

/-- Three events are fetched, the second is released before the first, the device
goes on with the last slot and the first one again, and the event in the last
slot is released while the third is still out. -/
def aroundTheRing : List RingAction :=
  [.deviceWrite (descriptorOf 0 16), .deviceWrite (descriptorOf 0x40 16),
    .deviceWrite (descriptorOf 0x80 16), .getNextEvent, .getNextEvent, .getNextEvent,
    .releaseEvent 1, .releaseEvent 0, .deviceWrite (descriptorOf 0xc0 16),
    .deviceWrite (descriptorOf 0x100 16), .getNextEvent, .releaseEvent 3]

theorem ring_delivers_in_order_aroundTheRing :
    ∃ s, (ringSystem fourSlotRing).run fourSlotStart aroundTheRing = some s ∧
      s.delivered.map Prod.fst = [0, 1, 2, 3] ∧ s.delivered <+: s.written ∧
      ∀ event, s.stream.getNextEvent.1 = some event →
        s.written[4]? = some (event.reference, event.report) := by
  obtain ⟨s, ran, delivered⟩ := Option.map_eq_some_iff.mp
    (show ((ringSystem fourSlotRing).run fourSlotStart aroundTheRing).map
      (fun s => s.delivered.map Prod.fst) = some [0, 1, 2, 3] by decide)
  obtain ⟨isPrefix, -, next, -⟩ := ring_delivers_in_order (fourSlot_reached (by decide) ran)
  have four : s.delivered.length = 4 := by
    rw [← List.length_map Prod.fst, delivered]
    rfl
  exact ⟨s, ran, delivered, isPrefix, four ▸ next⟩

end Librorc
