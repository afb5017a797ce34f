import Librorc.Event.Refine
import Librorc.Lib.ActionSystem

/-!
# Whole runs of the event ring

`ringSystem` puts the stream together with the device, which fills the slots
in order and stops at the slot the published read pointer designates, and with
the history of writes, deliveries and releases. `Tracks` ties a state to a
ledger: every step of a run whose releases are in order is a ledger step, and
the results about runs are read off the ledger.
-/

namespace Librorc

open Librorc.Lib

/-- The slot the report buffer read pointer designates. -/
def pointerSlot (ch : DmaChannel) : Nat := ch.getRBOffset.toNat / DmaChannel.sizeofEventDescriptor

/-- A stream with the device's write cursor and the history so far: what was
written and delivered, with slots, and the numbers of the deliveries not given
back yet. -/
structure RingRun (ring : ReportRing) where
  stream : EventStream ring
  writeSlot : Nat
  written : List (Nat × EventDescriptor)
  delivered : List (Nat × EventDescriptor)
  outstanding : List Nat

inductive RingAction
  | deviceWrite (d : EventDescriptor)
  | getNextEvent
  | releaseEvent (reference : Nat)

namespace RingRun

variable {ring : ReportRing}

/-- The reference `getNextEvent` returned with delivery number `k`. -/
def reference (s : RingRun ring) (k : Nat) : Option Nat := (s.delivered[k]?).map Prod.fst

/-- A reference of a delivery that was not given back. -/
def Outstanding (s : RingRun ring) (reference : Nat) : Prop :=
  ∃ k ∈ s.outstanding, s.reference k = some reference

/-- The number of the oldest delivery not given back, or of the next one. -/
def frontier (s : RingRun ring) : Nat := s.outstanding.head?.getD s.delivered.length

def step (s : RingRun ring) : RingAction → Option (RingRun ring)
  | .deviceWrite d =>
      -- the device stops in front of the slot the read pointer designates
      if d.reportedEventSize ≠ 0 ∧ s.writeSlot ≠ pointerSlot s.stream.channel then
        some { s with
          stream := { s.stream with reports := Function.update s.stream.reports s.writeSlot d }
          writeSlot := cyclicNext ring.maxRbEntries s.writeSlot
          written := s.written ++ [(s.writeSlot, d)] }
      else none
  | .getNextEvent =>
      match s.stream.getNextEvent with
      | (none, stream) => some { s with stream := stream }
      | (some event, stream) =>
          some { s with
            stream := stream
            delivered := s.delivered ++ [(event.reference, event.report)]
            outstanding := s.outstanding ++ [s.delivered.length] }
  | .releaseEvent reference =>
      some { s with
        stream := (s.stream.releaseEvent reference).2
        outstanding := s.outstanding.filter fun k => s.reference k ≠ some reference }

/-- A stream whose channel `initializeDmaChannel` set up on a report buffer of
the ring's size. -/
def Initial (s : RingRun ring) : Prop :=
  ∃ (page : PageSize) (ch : DmaChannel) (eb rb : Buffer) (esType : EventStreamDirection)
    (pciePacketSize : Word32),
    rb.size.toNat = ring.physicalSize ∧
    (initializeDmaChannel page ch (some eb) (some rb) esType pciePacketSize).1 = 0 ∧
    s = ⟨EventStream.initial ring
      (initializeDmaChannel page ch (some eb) (some rb) esType pciePacketSize).2, 0, [], [], []⟩

/-- Only outstanding references are released. -/
def Disciplined (s : RingRun ring) : RingAction → Prop
  | .releaseEvent reference => s.Outstanding reference
  | _ => True

instance (s : RingRun ring) : (a : RingAction) → Decidable (s.Disciplined a)
  | .releaseEvent _ => inferInstanceAs (Decidable (∃ _ ∈ _, _))
  | .deviceWrite _ | .getNextEvent => isTrue trivial

/-- A reference that is released without being outstanding is one
`releaseEvent` refuses. -/
def Checked (s : RingRun ring) : RingAction → Prop
  | .releaseEvent reference => s.Outstanding reference ∨ ring.maxRbEntries ≤ reference
  | _ => True

end RingRun

/-- The ring under its users and its device. -/
def ringSystem (ring : ReportRing) : ActionSystem (RingRun ring) RingAction where
  init := RingRun.Initial
  step := RingRun.step

variable {ring : ReportRing}

/-! ## The read pointer -/

/-- The pointer after `k` releases designates the slot before number `k`. -/
theorem pointerSlot_publishedChannel {base : DmaChannel}
    (start : pointerSlot base = ring.maxRbEntries - 1) (written : List WrittenDescriptor)
    (k : Nat) :
    pointerSlot (publishedChannel ring base written k) =
      (k + (ring.maxRbEntries - 1)) % ring.maxRbEntries := by
  have positive := ring.maxRbEntries_pos
  rw [publishedChannel]
  split
  · rename_i zero
    rw [start, zero, Nat.zero_add, Nat.mod_eq_of_lt (by omega)]
  · have inside := ring.slot_offset_lt (Nat.mod_lt (k - 1) positive)
    have size := ring.physicalSize_lt
    rw [pointerSlot, DmaChannel.getRBOffset_setBufferOffsetsOnDevice, BitVec.toNat_ofNat,
      Nat.mod_eq_of_lt (by omega), Nat.mul_div_cancel _ (by decide),
      show k + (ring.maxRbEntries - 1) = k - 1 + ring.maxRbEntries by omega, Nat.add_mod_right]

/-- A channel just initialised designates the last slot. -/
theorem pointerSlot_initializeDmaChannel {page : PageSize} {ch : DmaChannel} {eb rb : Buffer}
    {esType : EventStreamDirection} {pciePacketSize : Word32}
    (size : rb.size.toNat = ring.physicalSize)
    (done : (initializeDmaChannel page ch (some eb) (some rb) esType pciePacketSize).1 = 0) :
    pointerSlot (initializeDmaChannel page ch (some eb) (some rb) esType pciePacketSize).2 =
      ring.maxRbEntries - 1 := by
  have errors : errorBufferNotInitialized ≠ 0 ∧ errorBufferSglistExceeded ≠ 0 ∧
      errorDmaConfigFailed ≠ 0 := by decide
  obtain ⟨notInitialized, exceeded, failed⟩ := errors
  have holdsOne := ring.holdsOne
  by_cases configured : (ch.configure page (some eb) (some rb) esType pciePacketSize).1 = 0
  · have channel : (initializeDmaChannel page ch (some eb) (some rb) esType pciePacketSize).2 =
        (ch.configure page (some eb) (some rb) esType pciePacketSize).2.enable := by
      simp [initializeDmaChannel, configured]
    rw [channel, pointerSlot, DmaChannel.getRBOffset_configure ch configured,
      BitVec.toNat_sub_of_le, size, ReportRing.maxRbEntries]
    · simp only [DmaChannel.sizeofEventDescriptor] at *
      simp only [BitVec.toNat_ofNat]
      omega
    · rw [BitVec.le_def, size]
      simpa [DmaChannel.sizeofEventDescriptor] using holdsOne
  · simp only [initializeDmaChannel, Option.isNone_some, Bool.false_eq_true, or_self, if_false,
      ne_eq, configured, not_false_eq_true, if_true] at done
    split_ifs at done
    · exact absurd done notInitialized
    · exact absurd done exceeded
    · exact absurd done failed

/-! ## Runs are tracked by a ledger -/

/-- The descriptors with the slots they are written to. -/
def slotted (ring : ReportRing) (written : List WrittenDescriptor) : List (Nat × EventDescriptor) :=
  written.mapIdx fun k d => (k % ring.maxRbEntries, d.val)

theorem getElem?_slotted {written : List WrittenDescriptor} {k : Nat}
    (inside : k < written.length) :
    (slotted ring written)[k]? = some (k % ring.maxRbEntries, descriptorAt written k) := by
  rw [slotted, List.getElem?_mapIdx, List.getElem?_eq_getElem inside, descriptorAt_of_lt inside]
  rfl

/-- The state keeps the ledger `L`. -/
structure Tracks (base : DmaChannel) (L : RingLedger ring) (s : RingRun ring) : Prop where
  start : pointerSlot base = ring.maxRbEntries - 1
  stream : s.stream = EventStream.ofLedger base L
  writeSlot : s.writeSlot = L.written.length % ring.maxRbEntries
  written : s.written = slotted ring L.written
  delivered : s.delivered = (slotted ring L.written).take L.delivered
  outstanding : s.outstanding = (List.range L.delivered).filter (· ∉ L.returned)

namespace Tracks

variable {base : DmaChannel} {L : RingLedger ring} {s s' : RingRun ring}

theorem length_written (t : Tracks base L s) : s.written.length = L.written.length := by
  rw [t.written, slotted, List.length_mapIdx]

theorem length_delivered (t : Tracks base L s) : s.delivered.length = L.delivered := by
  rw [t.delivered, List.length_take, slotted, List.length_mapIdx]
  exact Nat.min_eq_left L.delivered_le

/-- Delivery `k` was handed out with the slot of number `k`. -/
theorem reference_eq (t : Tracks base L s) {k : Nat} (taken : k < L.delivered) :
    s.reference k = some (k % ring.maxRbEntries) := by
  have delivered := L.delivered_le
  rw [RingRun.reference, t.delivered, List.getElem?_take_of_lt taken,
    getElem?_slotted (by omega)]
  rfl

theorem mem_outstanding (t : Tracks base L s) {k : Nat} :
    k ∈ s.outstanding ↔ k < L.delivered ∧ k ∉ L.returned := by
  rw [t.outstanding]
  simp

/-- An outstanding reference belongs to one delivery that is not back. -/
theorem outstanding_iff (t : Tracks base L s) {reference : Nat} :
    s.Outstanding reference ↔
      ∃ k < L.delivered, k ∉ L.returned ∧ k % ring.maxRbEntries = reference := by
  constructor
  · rintro ⟨k, mem, ref⟩
    obtain ⟨taken, out⟩ := t.mem_outstanding.mp mem
    rw [t.reference_eq taken, Option.some.injEq] at ref
    exact ⟨k, taken, out, ref⟩
  · rintro ⟨k, taken, out, slot⟩
    exact ⟨k, t.mem_outstanding.mpr ⟨taken, out⟩, by rw [t.reference_eq taken, slot]⟩

/-- The oldest delivery not given back is the frontier of the ledger. -/
theorem frontier_eq (t : Tracks base L s) : s.frontier = L.frontier := by
  have front := L.frontier_le
  rw [RingRun.frontier, t.outstanding, t.length_delivered, List.head?_filter]
  rcases Nat.lt_or_eq_of_le front with behind | level
  · have found : (List.range L.delivered).find? (fun k => decide (k ∉ L.returned)) =
        some L.frontier := by
      rw [List.find?_range_eq_some]
      refine ⟨by simpa using L.frontier_notMem, by simpa using behind, ?_⟩
      intro j below
      simpa using Ledger.mem_of_lt_frontier below
    rw [found]
    rfl
  · have none : (List.range L.delivered).find? (fun k => decide (k ∉ L.returned)) = none := by
      rw [List.find?_eq_none]
      intro j mem
      rw [List.mem_range, ← level] at mem
      simpa using Ledger.mem_of_lt_frontier mem
    rw [none]
    exact level.symm

/-! ### Steps -/

/-- The device writes where the ledger has room. -/
theorem write (t : Tracks base L s) {d : EventDescriptor}
    (taken : s.step (.deviceWrite d) = some s') :
    ∃ L' : RingLedger ring, Tracks base L' s' ∧
      L.written.length + 1 < L.frontier + ring.maxRbEntries := by
  have positive := ring.maxRbEntries_pos
  have front := L.frontier_le
  have delivered := L.delivered_le
  have bounded := L.lt_frontier_add
  simp only [RingRun.step] at taken
  split at taken
  case isFalse => exact absurd taken (by simp)
  case isTrue allowed =>
    obtain ⟨filled, free⟩ := allowed
    have room : L.written.length + 1 < L.frontier + ring.maxRbEntries := by
      by_contra full
      refine free ?_
      have last : L.written.length = L.frontier + (ring.maxRbEntries - 1) := by omega
      have channel : s.stream.channel = publishedChannel ring base L.written L.frontier := by
        rw [t.stream]
        rfl
      rw [channel, pointerSlot_publishedChannel t.start, t.writeSlot, last]
    obtain rfl := Option.some.inj taken
    refine ⟨L.write ⟨d, filled⟩ room, ?_, room⟩
    exact
      { start := t.start
        stream := by
          rw [← EventStream.ofLedger_write ⟨d, filled⟩ room, t.stream, t.writeSlot]
        writeSlot := by
          simp only [t.writeSlot, Ledger.write, List.length_append, List.length_singleton]
          exact cyclicNext_mod positive _
        written := by
          simp only [t.written, t.writeSlot, Ledger.write, slotted]
          rw [List.mapIdx_concat]
        delivered := by
          simp only [t.delivered, Ledger.write, slotted]
          rw [List.mapIdx_concat, List.take_append_of_le_length (by simpa using delivered)]
        outstanding := t.outstanding }

/-- `getNextEvent` hands out the next descriptor, if there is one. -/
theorem getNextEvent (t : Tracks base L s) (taken : s.step .getNextEvent = some s') :
    ∃ L' : RingLedger ring, Tracks base L' s' := by
  simp only [RingRun.step] at taken
  rw [t.stream] at taken
  by_cases more : L.delivered < L.written.length
  · rw [EventStream.getNextEvent_ofLedger more] at taken
    obtain rfl := Option.some.inj taken
    have notBack : L.delivered ∉ L.returned := fun mem => Nat.lt_irrefl _ (L.returned_lt _ mem)
    exact ⟨L.deliver more,
      { start := t.start
        stream := rfl
        writeSlot := t.writeSlot
        written := t.written
        delivered := by
          simp only [t.delivered, Ledger.deliver]
          rw [List.take_add_one, getElem?_slotted more]
          rfl
        outstanding := by
          have kept : [L.delivered].filter (fun k => decide (k ∉ L.returned)) = [L.delivered] := by
            simp [notBack]
          simp only [t.outstanding, t.length_delivered, Ledger.deliver, List.range_succ,
            List.filter_append]
          exact congrArg _ kept.symm }⟩
  · rw [EventStream.getNextEvent_ofLedger_empty (by omega)] at taken
    obtain rfl := Option.some.inj taken
    exact ⟨L, { t with stream := rfl }⟩

/-- Releasing an outstanding reference gives its delivery back. -/
theorem release (t : Tracks base L s) {k : Nat} (taken : k < L.delivered) (out : k ∉ L.returned) :
    Tracks base (L.giveBack k taken)
      { s with
        stream := (s.stream.releaseEvent (k % ring.maxRbEntries)).2
        outstanding :=
          s.outstanding.filter fun j => s.reference j ≠ some (k % ring.maxRbEntries) } where
  start := t.start
  stream := by
    simp only [t.stream]
    rw [EventStream.releaseEvent_ofLedger taken out]
  writeSlot := t.writeSlot
  written := t.written
  delivered := t.delivered
  outstanding := by
    have delivered := L.delivered_le
    have bounded := L.lt_frontier_add
    have low := Ledger.frontier_le_of_notMem out
    simp only [t.outstanding, List.filter_filter, Ledger.giveBack]
    apply List.filter_congr
    intro j mem
    have below := List.mem_range.mp mem
    rw [t.reference_eq below]
    -- among the numbers not back, the slot tells them apart
    by_cases back : j ∈ L.returned
    · simp [back]
    · have lowJ := Ledger.frontier_le_of_notMem back
      have slots : j % ring.maxRbEntries = k % ring.maxRbEntries ↔ j = k := by
        constructor
        · intro same
          exact eq_of_window same lowJ (by omega) low (by omega)
        · intro same
          rw [same]
      simp [back, slots]

/-- A reference behind the ring changes nothing. -/
theorem refuse (t : Tracks base L s) {reference : Nat} (outside : ring.maxRbEntries ≤ reference) :
    Tracks base L
      { s with
        stream := (s.stream.releaseEvent reference).2
        outstanding := s.outstanding.filter fun j => s.reference j ≠ some reference } where
  start := t.start
  stream := by rw [EventStream.releaseEvent_of_le _ outside, t.stream]
  writeSlot := t.writeSlot
  written := t.written
  delivered := t.delivered
  outstanding := by
    refine Eq.trans (List.filter_eq_self.mpr ?_) t.outstanding
    intro j mem
    have slot := Nat.mod_lt j ring.maxRbEntries_pos
    rw [t.reference_eq (t.mem_outstanding.mp mem).1]
    simp
    omega

end Tracks

/-- Every run whose releases are outstanding or out of range is tracked. -/
theorem tracked {s : RingRun ring} (reached : (ringSystem ring).Reached RingRun.Checked s) :
    ∃ (base : DmaChannel) (L : RingLedger ring), Tracks base L s := by
  refine @ActionSystem.Reached.invariant _ _ _ _ _ (fun s => ∃ base L, Tracks base L s) ?_ ?_
    reached
  · rintro s ⟨page, ch, eb, rb, esType, pciePacketSize, size, done, rfl⟩
    exact ⟨_, Ledger.empty ring.maxRbEntries_pos,
      { start := pointerSlot_initializeDmaChannel size done
        stream := (EventStream.ofLedger_empty _).symm
        writeSlot := rfl
        written := rfl
        delivered := rfl
        outstanding := rfl }⟩
  · rintro s a s' ⟨base, L, t⟩ allowed taken
    cases a with
    | deviceWrite d =>
        obtain ⟨L', t', -⟩ := t.write taken
        exact ⟨base, L', t'⟩
    | getNextEvent =>
        obtain ⟨L', t'⟩ := t.getNextEvent taken
        exact ⟨base, L', t'⟩
    | releaseEvent reference =>
        obtain rfl := Option.some.inj taken
        rcases allowed with outstanding | invalid
        · obtain ⟨k, below, out, rfl⟩ := t.outstanding_iff.mp outstanding
          exact ⟨base, L.giveBack k below, t.release below out⟩
        · exact ⟨base, L, t.refuse invalid⟩

end Librorc
