import Librorc.Event.Delivery

/-!
# Releases in any order

`ReleaseEffect` says what one accepted release does to the ring, in terms of
the history: how far the release index moves, which marks stay, which
descriptors are cleared and what is published. Since the stream is a function
of the ledger and the ledger only collects the set of numbers given back, the
order of the releases does not show in the result.
-/

namespace Librorc

open Librorc.Lib

variable {ring : ReportRing}

/-- What an accepted release does. Slot numbers are given by the reference of
the delivery they belong to. -/
structure ReleaseEffect (before after : RingRun ring) : Prop where
  /-- The release index is the slot of the oldest delivery that is not back. -/
  index : after.stream.releaseIndex = after.frontier % ring.maxRbEntries
  prefixBack : ∀ k < after.frontier, k ∉ after.outstanding
  maximal : after.frontier ∈ after.outstanding ∨ after.frontier = after.delivered.length
  monotone : before.frontier ≤ after.frontier
  /-- A mark stands for a delivery that is back ahead of an older one. -/
  marks : ∀ i, after.stream.releaseMap i = true ↔
    ∃ k, after.frontier < k ∧ k < after.delivered.length ∧ k ∉ after.outstanding ∧
      after.reference k = some i
  indexUnmarked : after.stream.releaseMap after.stream.releaseIndex = false
  cleared : ∀ i, (∃ k, before.frontier ≤ k ∧ k < after.frontier ∧ before.reference k = some i) →
    after.stream.reports i = .zero
  kept : ∀ i, (¬∃ k, before.frontier ≤ k ∧ k < after.frontier ∧ before.reference k = some i) →
    after.stream.reports i = before.stream.reports i
  /-- What an advance publishes: the event offset of the last slot passed, as
  it was before the slot was cleared, and the slot's place in the buffer. -/
  published : before.frontier < after.frontier →
    ∃ last, before.reference (after.frontier - 1) = some last ∧
      after.stream.channel.getEBOffset = (before.stream.reports last).offset ∧
      after.stream.releaseOffset = (before.stream.reports last).offset ∧
      after.stream.channel.getRBOffset.toNat = last * DmaChannel.sizeofEventDescriptor ∧
      last * DmaChannel.sizeofEventDescriptor < ring.physicalSize
  unpublished : after.frontier = before.frontier →
    after.stream.channel = before.stream.channel ∧
      after.stream.releaseOffset = before.stream.releaseOffset

namespace Tracks

variable {base : DmaChannel} {L : RingLedger ring} {s s' : RingRun ring}

theorem reference_of_lt (t : Tracks base L s) {k i : Nat} :
    s.reference k = some i ∧ k < L.delivered ↔ k < L.delivered ∧ k % ring.maxRbEntries = i := by
  constructor
  · rintro ⟨ref, below⟩
    rw [t.reference_eq below, Option.some.injEq] at ref
    exact ⟨below, ref⟩
  · rintro ⟨below, slot⟩
    exact ⟨by rw [t.reference_eq below, slot], below⟩

theorem stream_releaseIndex (t : Tracks base L s) :
    s.stream.releaseIndex = L.frontier % ring.maxRbEntries := by
  rw [t.stream]
  rfl

/-- The marks, in terms of the history. -/
theorem releaseMap_iff (t : Tracks base L s) (i : Nat) :
    s.stream.releaseMap i = true ↔
      ∃ k, s.frontier < k ∧ k < s.delivered.length ∧ k ∉ s.outstanding ∧
        s.reference k = some i := by
  have delivered := L.delivered_le
  have bounded := L.lt_frontier_add
  rw [t.stream, EventStream.ofLedger_releaseMap_iff, t.frontier_eq, t.length_delivered]
  constructor
  · rintro ⟨inside, back⟩
    have below := L.returned_lt _ back
    have ne : slotNumber ring.maxRbEntries L.frontier i ≠ L.frontier := by
      intro same
      rw [same] at back
      exact L.frontier_notMem back
    have low := le_slotNumber ring.maxRbEntries L.frontier i
    refine ⟨slotNumber ring.maxRbEntries L.frontier i, by omega, below, ?_, ?_⟩
    · intro out
      exact (t.mem_outstanding.mp out).2 back
    · rw [t.reference_eq below, slotNumber_mod inside]
  · rintro ⟨k, low, below, notOut, ref⟩
    have slot := (t.reference_of_lt.mp ⟨ref, below⟩).2
    have back : k ∈ L.returned := by
      by_contra out
      exact notOut (t.mem_outstanding.mpr ⟨below, out⟩)
    subst slot
    rw [slotNumber_mod_self (by omega) (by omega)]
    exact ⟨Nat.mod_lt k ring.maxRbEntries_pos, back⟩

/-- The slots an advance passes are `m` of them from the frontier on. -/
theorem passed_iff (t : Tracks base L s) {k m : Nat} {taken : k < L.delivered}
    (t' : Tracks base (L.giveBack k taken) s')
    (advanced : (L.giveBack k taken).frontier = L.frontier + m) (i : Nat) :
    (∃ k, s.frontier ≤ k ∧ k < s'.frontier ∧ s.reference k = some i) ↔
      ∃ j < m, (L.frontier + j) % ring.maxRbEntries = i := by
  have front := EventStream.giveBack_frontier_le taken
  rw [t.frontier_eq, t'.frontier_eq]
  constructor
  · rintro ⟨k, above, below, ref⟩
    refine ⟨k - L.frontier, by omega, ?_⟩
    rw [show L.frontier + (k - L.frontier) = k by omega]
    exact (t.reference_of_lt.mp ⟨ref, by omega⟩).2
  · rintro ⟨j, below, slot⟩
    refine ⟨L.frontier + j, by omega, by omega, ?_⟩
    rw [t.reference_eq (by omega), slot]

/-- What an advance publishes belongs to the last slot it passes. -/
theorem published_giveBack (t : Tracks base L s) {k : Nat} (taken : k < L.delivered)
    (t' : Tracks base (L.giveBack k taken) s') (moved : s.frontier < s'.frontier) :
    ∃ last, s.reference (s'.frontier - 1) = some last ∧
      s'.stream.channel.getEBOffset = (s.stream.reports last).offset ∧
      s'.stream.releaseOffset = (s.stream.reports last).offset ∧
      s'.stream.channel.getRBOffset.toNat = last * DmaChannel.sizeofEventDescriptor ∧
      last * DmaChannel.sizeofEventDescriptor < ring.physicalSize := by
  have front := EventStream.giveBack_frontier_le taken
  have delivered := L.delivered_le
  have bounded := L.lt_frontier_add
  rw [t.frontier_eq, t'.frontier_eq] at moved
  have slot := Nat.mod_lt ((L.giveBack k taken).frontier - 1) ring.maxRbEntries_pos
  have inside := ring.slot_offset_lt slot
  have size := ring.physicalSize_lt
  have channel : s'.stream.channel = base.setBufferOffsetsOnDevice
      (lastOffset L.written (L.giveBack k taken).frontier) (BitVec.ofNat 64
        (((L.giveBack k taken).frontier - 1) % ring.maxRbEntries *
          DmaChannel.sizeofEventDescriptor)) := by
    rw [t'.stream]
    exact if_neg (by omega)
  have offset : (s.stream.reports
      (((L.giveBack k taken).frontier - 1) % ring.maxRbEntries)).offset =
        lastOffset L.written (L.giveBack k taken).frontier := by
    rw [t.stream, EventStream.ofLedger_reports_mod (by omega) (by omega), lastOffset,
      if_neg (by omega)]
  refine ⟨((L.giveBack k taken).frontier - 1) % ring.maxRbEntries, ?_, ?_, ?_, ?_, inside⟩
  · rw [t'.frontier_eq, t.reference_eq (by omega)]
  · rw [channel, DmaChannel.getEBOffset_setBufferOffsetsOnDevice, offset]
  · rw [t'.stream, offset]
    rfl
  · rw [channel, DmaChannel.getRBOffset_setBufferOffsetsOnDevice, BitVec.toNat_ofNat,
      Nat.mod_eq_of_lt (by omega)]

/-- The release index never comes to rest on a marked slot. -/
theorem releaseMap_releaseIndex (t : Tracks base L s) :
    s.stream.releaseMap s.stream.releaseIndex = false := by
  have delivered := L.delivered_le
  have bounded := L.lt_frontier_add
  rw [← Bool.not_eq_true, t.releaseMap_iff, t.stream_releaseIndex, t.frontier_eq,
    t.length_delivered]
  rintro ⟨j, above, below, -, ref⟩
  have slot := (t.reference_of_lt.mp ⟨ref, below⟩).2
  have same := eq_of_window slot (Nat.le_of_lt above) (by omega) (Nat.le_refl _) (by omega)
  omega

/-- The effect of giving one delivery back. -/
theorem releaseEffect (t : Tracks base L s) {k : Nat} (taken : k < L.delivered)
    (t' : Tracks base (L.giveBack k taken) s') : ReleaseEffect s s' := by
  have low := EventStream.frontier_le_giveBack taken
  have front := EventStream.giveBack_frontier_le taken
  have oldest := t.frontier_eq
  have oldest' := t'.frontier_eq
  obtain ⟨m, advanced⟩ := Nat.exists_eq_add_of_le low
  have reports : s'.stream.reports =
      clearFrom s.stream.reports .zero ring.maxRbEntries L.frontier m := by
    rw [t.stream, t'.stream]
    exact (EventStream.clear_reports taken base advanced).symm
  exact
    { index := by rw [t'.stream_releaseIndex, oldest']
      prefixBack := by
        intro k below out
        rw [oldest'] at below
        exact (t'.mem_outstanding.mp out).2 (Ledger.mem_of_lt_frontier below)
      maximal := by
        rw [oldest', t'.length_delivered]
        rcases Nat.lt_or_eq_of_le front with behind | level
        · exact .inl (t'.mem_outstanding.mpr ⟨behind, (L.giveBack k taken).frontier_notMem⟩)
        · exact .inr level
      monotone := by rw [oldest, oldest']; exact low
      marks := t'.releaseMap_iff
      indexUnmarked := t'.releaseMap_releaseIndex
      -- the slots passed are the slots the loop clears
      cleared := by
        intro i window
        rw [reports]
        exact if_pos ((t.passed_iff t' advanced i).mp window)
      kept := by
        intro i outside
        rw [reports]
        exact if_neg (mt (t.passed_iff t' advanced i).mpr outside)
      published := t.published_giveBack taken t'
      unpublished := by
        intro still
        rw [oldest, oldest'] at still
        rw [t.stream, t'.stream]
        simp only [EventStream.ofLedger, still]
        exact ⟨rfl, rfl⟩ }

end Tracks

/-! ## The order of the releases -/

/-- A sequence of releases. -/
def EventStream.releaseAll (s : EventStream ring) (references : List Nat) : EventStream ring :=
  references.foldl (fun s reference => (s.releaseEvent reference).2) s

/-- Releasing deliveries that are out adds them to the ledger. -/
theorem releaseAll_ofLedger {base : DmaChannel} {L : RingLedger ring} {numbers : List Nat}
    (distinct : numbers.Nodup) (out : ∀ k ∈ numbers, k < L.delivered ∧ k ∉ L.returned) :
    ∃ L' : RingLedger ring, L'.written = L.written ∧ L'.delivered = L.delivered ∧
      L'.returned = L.returned ∪ numbers.toFinset ∧
      (EventStream.ofLedger base L).releaseAll (numbers.map (· % ring.maxRbEntries)) =
        EventStream.ofLedger base L' := by
  induction numbers generalizing L with
  | nil => exact ⟨L, rfl, rfl, by simp, rfl⟩
  | cons k rest ih =>
      obtain ⟨fresh, distinct⟩ := List.nodup_cons.mp distinct
      obtain ⟨taken, notBack⟩ := out k List.mem_cons_self
      have outRest : ∀ j ∈ rest,
          j < (L.giveBack k taken).delivered ∧ j ∉ (L.giveBack k taken).returned := by
        intro j mem
        obtain ⟨takenJ, notBackJ⟩ := out j (List.mem_cons_of_mem _ mem)
        refine ⟨takenJ, ?_⟩
        intro back
        rcases Finset.mem_insert.mp back with same | back
        · exact fresh (same ▸ mem)
        · exact notBackJ back
      obtain ⟨L', written, delivered, returned, run⟩ := ih distinct outRest
      refine ⟨L', written, delivered, ?_, ?_⟩
      · rw [returned]
        show insert k L.returned ∪ rest.toFinset = L.returned ∪ (k :: rest).toFinset
        rw [List.toFinset_cons, Finset.insert_union, Finset.union_insert]
      · rw [← run]
        show (((EventStream.ofLedger base L).releaseEvent (k % ring.maxRbEntries)).2).releaseAll _ =
          _
        rw [EventStream.releaseEvent_ofLedger taken notBack]

/-- Outstanding references in two orders leave one stream behind. -/
theorem Tracks.releaseAll_perm {base : DmaChannel} {L : RingLedger ring} {s : RingRun ring}
    (t : Tracks base L s) {references references' : List Nat} (distinct : references.Nodup)
    (out : ∀ r ∈ references, s.Outstanding r) (perm : references.Perm references') :
    s.stream.releaseAll references = s.stream.releaseAll references' := by
  have delivered := L.delivered_le
  have bounded := L.lt_frontier_add
  -- the numbers behind the references
  have number {r : Nat} (mem : r ∈ references) :
      slotNumber ring.maxRbEntries L.frontier r < L.delivered ∧
        slotNumber ring.maxRbEntries L.frontier r ∉ L.returned ∧ r < ring.maxRbEntries := by
    obtain ⟨k, below, notBack, rfl⟩ := t.outstanding_iff.mp (out r mem)
    rw [slotNumber_mod_self (Ledger.frontier_le_of_notMem notBack) (by omega)]
    exact ⟨below, notBack, Nat.mod_lt k ring.maxRbEntries_pos⟩
  have back {refs : List Nat} (sub : ∀ r ∈ refs, r ∈ references) :
      (refs.map (slotNumber ring.maxRbEntries L.frontier)).map (· % ring.maxRbEntries) = refs := by
    rw [List.map_map]
    refine (List.map_congr_left ?_).trans (List.map_id refs)
    intro r mem
    exact slotNumber_mod (number (sub r mem)).2.2 _
  have run {refs : List Nat} (distinct : refs.Nodup) (sub : ∀ r ∈ refs, r ∈ references) :
      ∃ L' : RingLedger ring, L'.written = L.written ∧ L'.delivered = L.delivered ∧
        L'.returned = L.returned ∪ (refs.map (slotNumber ring.maxRbEntries L.frontier)).toFinset ∧
        s.stream.releaseAll refs = EventStream.ofLedger base L' := by
    rw [t.stream]
    conv in EventStream.releaseAll _ _ => rw [← back sub]
    refine releaseAll_ofLedger ((back sub).symm ▸ distinct).of_map ?_
    intro k mem
    obtain ⟨r, memR, rfl⟩ := List.mem_map.mp mem
    exact ⟨(number (sub r memR)).1, (number (sub r memR)).2.1⟩
  obtain ⟨L₁, written₁, delivered₁, returned₁, run₁⟩ := run distinct fun r mem => mem
  obtain ⟨L₂, written₂, delivered₂, returned₂, run₂⟩ :=
    run (perm.nodup_iff.mp distinct) fun r mem => perm.mem_iff.mpr mem
  have same : L₁ = L₂ := by
    ext1
    · rw [written₁, written₂]
    · rw [delivered₁, delivered₂]
    · rw [returned₁, returned₂, List.toFinset_eq_of_perm _ _ (perm.map _)]
  rw [run₁, run₂, same]

/-- **Release in any order.** From every state of a disciplined run, releasing
an outstanding reference has exactly the effect of `ReleaseEffect`, and
releasing several leaves the same stream in every order. -/
theorem release_effect {s : RingRun ring}
    (reached : (ringSystem ring).Reached RingRun.Disciplined s) :
    (∀ reference s', s.Outstanding reference → s.step (.releaseEvent reference) = some s' →
      (s.stream.releaseEvent reference).1 = 0 ∧ ReleaseEffect s s') ∧
    (∀ references references' : List Nat, references.Nodup →
      (∀ r ∈ references, s.Outstanding r) → references.Perm references' →
      s.stream.releaseAll references = s.stream.releaseAll references') := by
  obtain ⟨base, L, t⟩ := tracked (reached.mono RingRun.Disciplined.checked)
  constructor
  · intro reference s' outstanding taken
    obtain ⟨k, below, notBack, rfl⟩ := t.outstanding_iff.mp outstanding
    obtain rfl := Option.some.inj taken
    refine ⟨?_, t.releaseEffect below (t.release below notBack)⟩
    rw [t.stream, EventStream.releaseEvent_ofLedger below notBack]
  · intro references references' distinct outstanding perm
    exact t.releaseAll_perm distinct outstanding perm

/-- The third event and the one behind the wrap are out, the one between them is
back. -/
def twoOutstanding : List RingAction := aroundTheRing ++ [.getNextEvent]

theorem release_effect_twoOutstanding :
    ∃ s s', (ringSystem fourSlotRing).run fourSlotStart twoOutstanding = some s ∧
      s.outstanding = [2, 4] ∧ s.step (.releaseEvent 2) = some s' ∧ ReleaseEffect s s' ∧
      s.stream.releaseAll [2, 0] = s.stream.releaseAll [0, 2] := by
  obtain ⟨s, ran, history⟩ := Option.map_eq_some_iff.mp
    (show ((ringSystem fourSlotRing).run fourSlotStart twoOutstanding).map
      (fun s => (s.outstanding, s.reference 2, s.reference 4)) = some ([2, 4], some 2, some 0) by
        decide)
  simp only [Prod.mk.injEq] at history
  obtain ⟨outstanding, third, fifth⟩ := history
  have two : s.Outstanding 2 := ⟨2, by simp [outstanding], third⟩
  have zero : s.Outstanding 0 := ⟨4, by simp [outstanding], fifth⟩
  obtain ⟨effect, anyOrder⟩ := release_effect (fourSlot_reached (by decide) ran)
  refine ⟨s, _, ran, outstanding, rfl, (effect 2 _ two rfl).2, ?_⟩
  exact anyOrder [2, 0] [0, 2] (by decide) (by simp [two, zero]) (.swap 0 2 [])

end Librorc
