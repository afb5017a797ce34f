import Librorc.Event.Release

/-!
# Which references `releaseEvent` refuses

The only check is the range check. A reference inside the ring is accepted
whatever its state: a stale one leaves a mark that has no effect until the
release index comes round to the slot, and then passes over an event nobody
has seen.
-/

namespace Librorc

open Librorc.Lib

variable {ring : ReportRing}

/-- The call was refused and changed nothing. -/
def Rejected (s : EventStream ring) (reference : Nat) : Prop :=
  (s.releaseEvent reference).1 = -1 ∧ (s.releaseEvent reference).2 = s

theorem rejected_iff (s : EventStream ring) (reference : Nat) :
    Rejected s reference ↔ ring.maxRbEntries ≤ reference := by
  unfold Rejected EventStream.releaseEvent
  split
  · rename_i outside
    exact iff_of_true ⟨rfl, rfl⟩ outside
  · rename_i inside
    refine iff_of_false ?_ inside
    rintro ⟨refused, -⟩
    exact absurd (show (0 : Int) = -1 from refused) (by omega)

/-- An undelivered event is in its slot, and the slot is not marked. -/
theorem Tracks.undelivered_intact {base : DmaChannel} {L : RingLedger ring} {s : RingRun ring}
    (t : Tracks base L s) {w : Nat × EventDescriptor}
    (mem : w ∈ s.written.drop s.delivered.length) :
    s.stream.reports w.1 = w.2 ∧ s.stream.releaseMap w.1 = false := by
  have front := L.frontier_le
  have bounded := L.lt_frontier_add
  obtain ⟨k, low, high, rfl⟩ := t.mem_undelivered mem
  rw [t.stream]
  refine ⟨EventStream.ofLedger_reports_mod (by omega) (by omega), ?_⟩
  rw [← Bool.not_eq_true, EventStream.ofLedger_releaseMap_iff,
    slotNumber_mod_self (by omega) (by omega)]
  rintro ⟨-, back⟩
  have := L.returned_lt _ back
  omega

/-- **Invalid references.** In every state any run reaches, a reference that is
not outstanding is refused exactly when it lies behind the ring; and as long
as only such references are passed besides outstanding ones, every undelivered
event stays in its slot, unmarked. -/
theorem releaseEvent_rejects_iff :
    (∀ s : RingRun ring, (ringSystem ring).Reached (fun _ _ => True) s →
      ∀ reference, ¬s.Outstanding reference →
        (Rejected s.stream reference ↔ ring.maxRbEntries ≤ reference)) ∧
    (∀ s : RingRun ring, (ringSystem ring).Reached RingRun.Checked s →
      ∀ w ∈ s.written.drop s.delivered.length,
        s.stream.reports w.1 = w.2 ∧ s.stream.releaseMap w.1 = false) := by
  constructor
  · intro s _ reference _
    exact rejected_iff s.stream reference
  · intro s reached w mem
    obtain ⟨base, L, t⟩ := tracked reached
    exact t.undelivered_intact mem

/-- Fetch an event and release it. -/
def fetchAndRelease : List RingAction := fetchOne ++ [.releaseEvent 0]

/-- A second release of the same reference is accepted. -/
theorem releaseEvent_accepts_stale :
    ¬∀ (ring : ReportRing) (s : RingRun ring), (ringSystem ring).Reached (fun _ _ => True) s →
      ∀ reference, ¬s.Outstanding reference → Rejected s.stream reference := by
  intro rejects
  obtain ⟨s, ran⟩ := Option.isSome_iff_exists.mp
    (show ((ringSystem fourSlotRing).run fourSlotStart fetchAndRelease).isSome = true by decide)
  have history : ((ringSystem fourSlotRing).run fourSlotStart fetchAndRelease).map
      RingRun.outstanding = some [] := by decide
  rw [ran] at history
  have none : s.outstanding = [] := Option.some.inj history
  have keeps : (ringSystem fourSlotRing).Keeps (fun _ _ => True) fourSlotStart fetchAndRelease :=
    ⟨trivial, fun _ _ => ⟨trivial, fun _ _ => ⟨trivial, fun _ _ => trivial⟩⟩⟩
  have reached := (ActionSystem.Reached.init fourSlotStart_initial).run keeps ran
  have stale : ¬s.Outstanding 0 := by
    rintro ⟨k, mem, -⟩
    rw [none] at mem
    exact absurd mem List.not_mem_nil
  exact absurd ((rejected_iff s.stream 0).mp (rejects _ s reached 0 stale)) (by decide)

/-- One lap later the stale mark hides an event: six are written, four are
delivered, and the ring reports that none is left. -/
example :
    ((ringSystem fourSlotRing).run fourSlotStart (fetchAndRelease ++ [.releaseEvent 0,
      .deviceWrite (descriptorOf 0x200 16), .getNextEvent, .releaseEvent 1,
      .deviceWrite (descriptorOf 0x300 16), .getNextEvent, .releaseEvent 2,
      .deviceWrite (descriptorOf 0x400 16), .deviceWrite (descriptorOf 0x500 16),
      .deviceWrite (descriptorOf 0x600 16), .getNextEvent, .releaseEvent 3])).map
        (fun s => (s.written.length, s.delivered.length, s.stream.getNextEvent.1)) =
      some (6, 4, none) := by
  decide

end Librorc
