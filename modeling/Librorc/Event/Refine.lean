import Librorc.Dma.Pointers
import Librorc.Event.Scan
import Librorc.Lib.Ledger

/-!
# The event ring as a ledger

`EventStream.ofLedger` computes every member of the stream from the ledger of
descriptors written, delivered and given back. Each operation of the ring is
the ledger operation seen through it: a device write, a delivery, a release.
What the stream looks like is then a question about the ledger only.
-/

namespace Librorc

open Librorc.Lib

/-- A descriptor the device writes: never an empty one. -/
abbrev WrittenDescriptor := {d : EventDescriptor // d.reportedEventSize ≠ 0}

abbrev RingLedger (ring : ReportRing) := Ledger WrittenDescriptor ring.maxRbEntries

/-- Descriptor number `k`; an empty one if it has not been written. -/
def descriptorAt (written : List WrittenDescriptor) (k : Nat) : EventDescriptor :=
  (written[k]?.map Subtype.val).getD .zero

/-- Event buffer offset of the last of the first `k` descriptors. -/
def lastOffset (written : List WrittenDescriptor) (k : Nat) : Word64 :=
  if k = 0 then 0 else (descriptorAt written (k - 1)).offset

section Descriptors

variable {written : List WrittenDescriptor} {k : Nat}

theorem descriptorAt_of_le (unwritten : written.length ≤ k) : descriptorAt written k = .zero := by
  rw [descriptorAt, List.getElem?_eq_none unwritten]
  rfl

theorem descriptorAt_of_lt (inside : k < written.length) :
    descriptorAt written k = written[k].val := by
  rw [descriptorAt, List.getElem?_eq_getElem inside]
  rfl

/-- The zero size marks the numbers not written yet. -/
theorem descriptorAt_size_eq_zero_iff :
    (descriptorAt written k).reportedEventSize = 0 ↔ written.length ≤ k := by
  by_cases inside : k < written.length
  · rw [descriptorAt_of_lt inside]
    exact iff_of_false written[k].property (by omega)
  · rw [descriptorAt_of_le (by omega)]
    exact iff_of_true rfl (by omega)

theorem descriptorAt_append_of_lt (d : WrittenDescriptor) (inside : k < written.length) :
    descriptorAt (written ++ [d]) k = descriptorAt written k := by
  rw [descriptorAt, descriptorAt, List.getElem?_append_left inside]

theorem descriptorAt_append_self (d : WrittenDescriptor) :
    descriptorAt (written ++ [d]) written.length = d.val := by
  simp [descriptorAt]

theorem lastOffset_append (d : WrittenDescriptor) (inside : k ≤ written.length) :
    lastOffset (written ++ [d]) k = lastOffset written k := by
  unfold lastOffset
  split
  · rfl
  · rw [descriptorAt_append_of_lt d (by omega)]

end Descriptors

variable {ring : ReportRing}

/-- The channel after the release of the first `k` descriptors. -/
def publishedChannel (ring : ReportRing) (base : DmaChannel) (written : List WrittenDescriptor)
    (k : Nat) : DmaChannel :=
  if k = 0 then base
  else base.setBufferOffsetsOnDevice (lastOffset written k)
    (BitVec.ofNat 64 ((k - 1) % ring.maxRbEntries * DmaChannel.sizeofEventDescriptor))

theorem publishedChannel_append (base : DmaChannel) {written : List WrittenDescriptor}
    (d : WrittenDescriptor) {k : Nat} (inside : k ≤ written.length) :
    publishedChannel ring base (written ++ [d]) k = publishedChannel ring base written k := by
  rw [publishedChannel, publishedChannel, lastOffset_append d inside]

/-- A later release overwrites the pointers of an earlier one. -/
theorem publishedChannel_publish (base : DmaChannel) (written : List WrittenDescriptor)
    (j : Nat) {k : Nat} (positive : k ≠ 0) :
    (publishedChannel ring base written j).setBufferOffsetsOnDevice (lastOffset written k)
        (BitVec.ofNat 64 ((k - 1) % ring.maxRbEntries * DmaChannel.sizeofEventDescriptor)) =
      publishedChannel ring base written k := by
  rw [publishedChannel, publishedChannel, if_neg positive]
  split
  · rfl
  · rw [DmaChannel.setBufferOffsetsOnDevice_twice]

namespace EventStream

/-- The stream that keeps a ledger, on a channel that was `base` before the
first release. -/
def ofLedger (base : DmaChannel) (L : RingLedger ring) : EventStream ring where
  receiveIndex :=
    if L.delivered = 0 then eventIndexUndefined else (L.delivered - 1) % ring.maxRbEntries
  releaseIndex := L.frontier % ring.maxRbEntries
  releaseMap i :=
    decide (i < ring.maxRbEntries ∧ slotNumber ring.maxRbEntries L.frontier i ∈ L.returned)
  reports i :=
    if i < ring.maxRbEntries then
      descriptorAt L.written (slotNumber ring.maxRbEntries L.frontier i)
    else .zero
  receiveOffset := lastOffset L.written L.delivered
  releaseOffset := lastOffset L.written L.frontier
  channel := publishedChannel ring base L.written L.frontier

variable {base : DmaChannel} {L : RingLedger ring}

theorem ofLedger_reports_of_lt {i : Nat} (inside : i < ring.maxRbEntries) :
    (ofLedger base L).reports i =
      descriptorAt L.written (slotNumber ring.maxRbEntries L.frontier i) :=
  if_pos inside

theorem ofLedger_reports_of_le {i : Nat} (outside : ring.maxRbEntries ≤ i) :
    (ofLedger base L).reports i = .zero :=
  if_neg (Nat.not_lt.mpr outside)

/-- A slot holds the descriptor of its number. -/
theorem ofLedger_reports_mod {k : Nat} (low : L.frontier ≤ k)
    (high : k < L.frontier + ring.maxRbEntries) :
    (ofLedger base L).reports (k % ring.maxRbEntries) = descriptorAt L.written k := by
  rw [ofLedger_reports_of_lt (Nat.mod_lt k ring.maxRbEntries_pos), slotNumber_mod_self low high]

/-- A slot is marked when its number came back ahead of an older one. -/
theorem ofLedger_releaseMap_iff {i : Nat} :
    (ofLedger base L).releaseMap i = true ↔
      i < ring.maxRbEntries ∧ slotNumber ring.maxRbEntries L.frontier i ∈ L.returned :=
  decide_eq_true_iff

theorem ofLedger_empty (base : DmaChannel) :
    ofLedger base (Ledger.empty ring.maxRbEntries_pos) = EventStream.initial ring base := by
  simp [ofLedger, Ledger.empty, Ledger.frontier, EventStream.initial, descriptorAt, lastOffset,
    publishedChannel]

/-! ## Device writes -/

/-- Writing the next descriptor into its slot is writing it to the ledger. -/
theorem ofLedger_write (d : WrittenDescriptor)
    (room : L.written.length + 1 < L.frontier + ring.maxRbEntries) :
    { ofLedger base L with
      reports := Function.update (ofLedger base L).reports
        (L.written.length % ring.maxRbEntries) d.val } =
      ofLedger base (L.write d room) := by
  have front := L.frontier_le
  have delivered := L.delivered_le
  ext1
  case reports =>
    funext i
    simp only
    by_cases inside : i < ring.maxRbEntries
    · have number := slotNumber_eq_iff (f := L.frontier) (k := L.written.length) inside (by omega)
        (by omega)
      have written : (ofLedger base (L.write d room)).reports i =
          descriptorAt (L.written ++ [d]) (slotNumber ring.maxRbEntries L.frontier i) :=
        ofLedger_reports_of_lt inside
      rw [written]
      by_cases here : slotNumber ring.maxRbEntries L.frontier i = L.written.length
      · rw [here, descriptorAt_append_self, ← number.mp here, Function.update_self]
      · rw [Function.update_of_ne (fun slot => here (number.mpr slot.symm)),
          ofLedger_reports_of_lt inside]
        by_cases older : slotNumber ring.maxRbEntries L.frontier i < L.written.length
        · rw [descriptorAt_append_of_lt d older]
        · rw [descriptorAt_of_le (by omega), descriptorAt_of_le (by simp; omega)]
    · have slot := Nat.mod_lt L.written.length ring.maxRbEntries_pos
      rw [Function.update_of_ne (by omega), ofLedger_reports_of_le (by omega),
        ofLedger_reports_of_le (by omega)]
  case receiveOffset => exact (lastOffset_append d delivered).symm
  case releaseOffset => exact (lastOffset_append d (front.trans delivered)).symm
  case channel => exact (publishedChannel_append base d (front.trans delivered)).symm
  all_goals rfl

/-! ## Deliveries -/

theorem ofLedger_nextReceiveIndex (base : DmaChannel) (L : RingLedger ring) :
    (ofLedger base L).nextReceiveIndex = L.delivered % ring.maxRbEntries := by
  unfold nextReceiveIndex ofLedger
  by_cases none : L.delivered = 0
  · simp [none]
  · have slot := Nat.mod_lt (L.delivered - 1) ring.maxRbEntries_pos
    have defined : (L.delivered - 1) % ring.maxRbEntries ≠ eventIndexUndefined := by
      have := ring.maxRbEntries_lt
      simp only [eventIndexUndefined]
      omega
    simp only [if_neg none, if_neg defined]
    rw [cyclicNext_mod ring.maxRbEntries_pos, Nat.sub_add_cancel (by omega)]

theorem ofLedger_next_report (base : DmaChannel) (L : RingLedger ring) :
    (ofLedger base L).reports (L.delivered % ring.maxRbEntries) =
      descriptorAt L.written L.delivered := by
  have delivered := L.delivered_le
  have bounded := L.lt_frontier_add
  exact ofLedger_reports_mod L.frontier_le (by omega)

/-- `getNextEvent` delivers the next descriptor … -/
theorem getNextEvent_ofLedger (more : L.delivered < L.written.length) :
    (ofLedger base L).getNextEvent =
      (some ⟨L.delivered % ring.maxRbEntries, descriptorAt L.written L.delivered,
        getRawEvent (descriptorAt L.written L.delivered)⟩, ofLedger base (L.deliver more)) := by
  have filled : (descriptorAt L.written L.delivered).reportedEventSize ≠ 0 := by
    intro empty
    have unwritten := descriptorAt_size_eq_zero_iff.mp empty
    omega
  simp only [getNextEvent, ofLedger_nextReceiveIndex, ofLedger_next_report, if_neg filled]
  rfl

/-- … and finds an empty slot when there is none. -/
theorem getNextEvent_ofLedger_empty (none : L.written.length ≤ L.delivered) :
    (ofLedger base L).getNextEvent = (Option.none, ofLedger base L) := by
  have empty := descriptorAt_size_eq_zero_iff.mpr none
  simp only [getNextEvent, ofLedger_nextReceiveIndex, ofLedger_next_report, if_pos empty]

/-! ## Releases -/

/-- The ledger after the return, with the mark of `releaseEvent` set and
nothing reclaimed yet. -/
def markedLedger (base : DmaChannel) (L : RingLedger ring) (k : Nat) : EventStream ring :=
  { ofLedger base L with
    releaseMap := Function.update (ofLedger base L).releaseMap (k % ring.maxRbEntries) true }

section Release

variable {k : Nat} (taken : k < L.delivered)

theorem markedLedger_releaseMap_iff (fresh : k ∉ L.returned) (taken : k < L.delivered) {i : Nat} :
    (markedLedger base L k).releaseMap i = true ↔
      i < ring.maxRbEntries ∧
        slotNumber ring.maxRbEntries L.frontier i ∈ (L.giveBack k taken).returned := by
  have low : L.frontier ≤ k := Ledger.frontier_le_of_notMem fresh
  have delivered := L.delivered_le
  have bounded := L.lt_frontier_add
  show Function.update (ofLedger base L).releaseMap (k % ring.maxRbEntries) true i = true ↔
    i < ring.maxRbEntries ∧
      slotNumber ring.maxRbEntries L.frontier i ∈ insert k L.returned
  rw [Finset.mem_insert]
  by_cases here : i = k % ring.maxRbEntries
  · have inside := Nat.mod_lt k ring.maxRbEntries_pos
    rw [here, Function.update_self, slotNumber_mod_self low (by omega)]
    simp [inside]
  · rw [Function.update_of_ne here, ofLedger_releaseMap_iff]
    constructor
    · rintro ⟨inside, back⟩
      exact ⟨inside, .inr back⟩
    · rintro ⟨inside, same | back⟩
      · exact absurd ((slotNumber_eq_iff inside low (by omega)).mp same).symm here
      · exact ⟨inside, back⟩

theorem frontier_le_giveBack : L.frontier ≤ (L.giveBack k taken).frontier :=
  firstMissing_mono (Finset.subset_insert k L.returned)

theorem giveBack_frontier_le : (L.giveBack k taken).frontier ≤ L.delivered :=
  (L.giveBack k taken).frontier_le

/-- Clearing the marks of the numbers passed leaves the marks behind the new
frontier. -/
theorem clear_marks (base : DmaChannel) (fresh : k ∉ L.returned) {m : Nat}
    (advanced : (L.giveBack k taken).frontier = L.frontier + m) :
    clearFrom (markedLedger base L k).releaseMap false ring.maxRbEntries L.frontier m =
      (ofLedger base (L.giveBack k taken)).releaseMap := by
  have front := giveBack_frontier_le taken
  have delivered := L.delivered_le
  have bounded := L.lt_frontier_add
  funext i
  rw [Bool.eq_iff_iff, ofLedger_releaseMap_iff]
  by_cases inside : i < ring.maxRbEntries
  · have lower := le_slotNumber ring.maxRbEntries L.frontier i
    rw [clearFrom_apply _ _ _ inside (by omega),
      slotNumber_advance inside (frontier_le_giveBack taken) (by omega), ← advanced]
    split
    · -- one lap later nothing has come back yet
      refine iff_of_false Bool.false_ne_true ?_
      intro back
      have := (L.giveBack k taken).returned_lt _ back.2
      have : (L.giveBack k taken).delivered = L.delivered := rfl
      omega
    · exact markedLedger_releaseMap_iff fresh taken
  · rw [clearFrom_of_le _ _ _ _ ring.maxRbEntries_pos (by omega),
      markedLedger_releaseMap_iff fresh taken]
    exact iff_of_false (fun both => inside both.1) fun both => inside both.1

theorem clear_reports (base : DmaChannel) {m : Nat}
    (advanced : (L.giveBack k taken).frontier = L.frontier + m) :
    clearFrom (markedLedger base L k).reports .zero ring.maxRbEntries L.frontier m =
      (ofLedger base (L.giveBack k taken)).reports := by
  have front := giveBack_frontier_le taken
  have delivered := L.delivered_le
  have bounded := L.lt_frontier_add
  funext i
  show clearFrom (ofLedger base L).reports _ _ _ _ i = _
  by_cases inside : i < ring.maxRbEntries
  · have lower := le_slotNumber ring.maxRbEntries L.frontier i
    rw [clearFrom_apply _ _ _ inside (by omega), ofLedger_reports_of_lt inside,
      ofLedger_reports_of_lt inside,
      slotNumber_advance inside (frontier_le_giveBack taken) (by omega), ← advanced]
    split
    · -- one lap later nothing has been written yet
      exact (descriptorAt_of_le (show L.written.length ≤ _ by omega)).symm
    · rfl
  · rw [clearFrom_of_le _ _ _ _ ring.maxRbEntries_pos (by omega),
      ofLedger_reports_of_le (by omega), ofLedger_reports_of_le (by omega)]

/-- The last slot passed holds the last descriptor before the new frontier. -/
theorem last_passed (base : DmaChannel) {m : Nat}
    (advanced : (L.giveBack k taken).frontier = L.frontier + m) (some : m ≠ 0) :
    let last := (L.frontier % ring.maxRbEntries + (m - 1)) % ring.maxRbEntries
    last = ((L.giveBack k taken).frontier - 1) % ring.maxRbEntries ∧
      ((markedLedger base L k).reports last).offset =
        lastOffset L.written (L.giveBack k taken).frontier := by
  have front := giveBack_frontier_le taken
  have delivered := L.delivered_le
  have bounded := L.lt_frontier_add
  have slot : (L.frontier % ring.maxRbEntries + (m - 1)) % ring.maxRbEntries =
      ((L.giveBack k taken).frontier - 1) % ring.maxRbEntries := by
    rw [Nat.mod_add_mod, advanced, show L.frontier + m - 1 = L.frontier + (m - 1) by omega]
  refine ⟨slot, ?_⟩
  rw [slot, lastOffset, if_neg (by omega)]
  show ((ofLedger base L).reports _).offset = _
  rw [ofLedger_reports_mod (by omega) (by omega)]

/-- Passing over the numbers that came back contiguously moves the frontier. -/
theorem pass_markedLedger (fresh : k ∉ L.returned) {m : Nat}
    (advanced : (L.giveBack k taken).frontier = L.frontier + m) :
    (markedLedger base L k).pass m = ofLedger base (L.giveBack k taken) := by
  have marks := clear_marks taken base fresh advanced
  by_cases none : m = 0
  · subst none
    rw [clearFrom_zero] at marks
    have reports := clear_reports taken base advanced
    rw [clearFrom_zero] at reports
    rw [pass, if_pos rfl]
    ext1
    case releaseMap => exact marks
    case reports => exact reports
    case releaseIndex => simp only [markedLedger, ofLedger, advanced, Nat.add_zero]
    case releaseOffset => simp only [markedLedger, ofLedger, advanced, Nat.add_zero]; rfl
    case channel => simp only [markedLedger, ofLedger, advanced, Nat.add_zero]; rfl
    all_goals rfl
  · obtain ⟨slot, offset⟩ := last_passed taken base advanced none
    have index : (markedLedger base L k).releaseIndex = L.frontier % ring.maxRbEntries := rfl
    have positive : (L.giveBack k taken).frontier ≠ 0 := by omega
    rw [pass, if_neg none]
    simp only [index, clearFrom_mod, marks, clear_reports taken base advanced, offset]
    rw [slot]
    ext1
    case releaseIndex => simp only [ofLedger, advanced, Nat.mod_add_mod]
    case channel => exact publishedChannel_publish base L.written L.frontier positive
    all_goals rfl

/-- Releasing an outstanding reference gives its delivery back. -/
theorem releaseEvent_ofLedger (fresh : k ∉ L.returned) :
    (ofLedger base L).releaseEvent (k % ring.maxRbEntries) =
      (0, ofLedger base (L.giveBack k taken)) := by
  have inside := Nat.mod_lt k ring.maxRbEntries_pos
  have index : (markedLedger base L k).releaseIndex = L.frontier % ring.maxRbEntries := rfl
  obtain ⟨m, advanced⟩ := Nat.exists_eq_add_of_le (frontier_le_giveBack taken)
  have front := giveBack_frontier_le taken
  have delivered := L.delivered_le
  have bounded := L.lt_frontier_add
  obtain ⟨m', atMost, passed, marked, stops⟩ := updateBufferOffsets_spec
    (markedLedger base L k) (Nat.mod_lt L.frontier ring.maxRbEntries_pos)
  -- a mark says that the number came back
  have mark {j : Nat} (below : j < ring.maxRbEntries) :
      (markedLedger base L k).releaseMap
          ((L.frontier % ring.maxRbEntries + j) % ring.maxRbEntries) = true ↔
        L.frontier + j ∈ (L.giveBack k taken).returned := by
    rw [markedLedger_releaseMap_iff fresh taken, Nat.mod_add_mod,
      slotNumber_mod_self (by omega) (by omega)]
    exact and_iff_right (Nat.mod_lt _ ring.maxRbEntries_pos)
  have stopsThere : m' = m := by
    rcases Nat.lt_trichotomy m' m with less | same | more
    · have unmarked := stops (by omega)
      rw [index] at unmarked
      have back : L.frontier + m' ∈ (L.giveBack k taken).returned :=
        Ledger.mem_of_lt_frontier (by omega)
      rw [(mark (by omega)).mpr back] at unmarked
      cases unmarked
    · exact same
    · have back := (mark (by omega)).mp (index ▸ marked m more)
      rw [← advanced] at back
      exact absurd back (L.giveBack k taken).frontier_notMem
  rw [releaseEvent, if_neg (by omega)]
  show (0, (markedLedger base L k).updateBufferOffsets) = _
  rw [passed, stopsThere, pass_markedLedger taken fresh advanced]

end Release

end EventStream
end Librorc
