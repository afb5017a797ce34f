import Librorc.Event.Delivery
import Librorc.Event.SglistRead
import Librorc.Lib.RingStore

/-!
# The event data

The report buffer says where an event is; its words are in the event buffer,
which is a ring of its own. `payloadSystem` adds that buffer and the device's
write pointer to `ringSystem`: the device writes the words of an event behind
those of the one before, as far as the published read pointer lets it, and then
reports it. A release publishes the start of the event released last, so that
events behind it are not overwritten.
-/

namespace Librorc

open Librorc.Lib

/-- An event buffer of whole words, that is mapped twice. -/
structure EventBuffer where
  words : Nat
  words_pos : 0 < words
  fits : 4 * words < 2 ^ 64

/-- The size in words, of bits 29 to 0 of `calc_event_size`. -/
def EventDescriptor.calcWords (d : EventDescriptor) : Nat := (d.calcEventSize &&& 0x3fffffff).toNat

/-- The ring with the event buffer. The device counts the words it has been past
from the start; the word number modulo the buffer is its write pointer. -/
structure PayloadRun (ring : ReportRing) (eb : EventBuffer) where
  run : RingRun ring
  memory : Nat → Word32
  position : Nat
  /-- Where the event that is being written starts, and its words so far. -/
  eventStart : Nat
  payload : List Word32
  /-- The events that were reported, by their starts. -/
  sent : List (Nat × List Word32)

inductive PayloadAction
  | writeWords (data : List Word32)
  | report (d : EventDescriptor) (padding : Nat)
  | getNextEvent
  | releaseEvent (reference : Nat)

namespace PayloadRun

variable {ring : ReportRing} {eb : EventBuffer}

/-- The word the published event buffer read pointer is at. -/
def readWord (s : PayloadRun ring eb) : Nat := s.run.stream.channel.getEBOffset.toNat / 4

/-- The words the device may still write. -/
def room (s : PayloadRun ring eb) : Nat := ringRoom eb.words s.readWord (s.position % eb.words)

/-- The descriptor is that of the event that is being written. -/
def Describes (s : PayloadRun ring eb) (d : EventDescriptor) : Prop :=
  d.offset.toNat = 4 * (s.eventStart % eb.words) ∧ d.calcWords = s.payload.length

instance (s : PayloadRun ring eb) (d : EventDescriptor) : Decidable (s.Describes d) :=
  inferInstanceAs (Decidable (_ ∧ _))

/-- A step of the host, which does not write to the event buffer. -/
def hostStep (s : PayloadRun ring eb) (a : RingAction) : Option (PayloadRun ring eb) :=
  (s.run.step a).map fun run => { s with run := run }

def step (s : PayloadRun ring eb) : PayloadAction → Option (PayloadRun ring eb)
  | .writeWords data =>
      if data.length ≤ s.room then
        some { s with
          memory := ringStore eb.words s.memory s.position data
          position := s.position + data.length
          payload := s.payload ++ data }
      else none
  | .report d padding =>
      -- the next event starts behind the padding
      if s.Describes d ∧ padding ≤ s.room then
        (s.run.step (.deviceWrite d)).map fun run =>
          { run := run
            memory := s.memory
            position := s.position + padding
            eventStart := s.position + padding
            payload := []
            sent := s.sent ++ [(s.eventStart, s.payload)] }
      else none
  | .getNextEvent => s.hostStep .getNextEvent
  | .releaseEvent reference => s.hostStep (.releaseEvent reference)

/-- A channel set up by `initializeDmaChannel` on the two buffers, with a packet
size that `overridePciePacketSize` takes and that is not larger than the event
buffer. -/
def Initial (s : PayloadRun ring eb) : Prop :=
  ∃ (page : PageSize) (ch : DmaChannel) (eventBuffer rb : Buffer) (pciePacketSize : Word32)
    (memory : Nat → Word32),
    eventBuffer.size.toNat = 4 * eb.words ∧ rb.size.toNat = ring.physicalSize ∧
    0 < pciePacketSize.toNat ∧ pciePacketSize.toNat % 4 = 0 ∧
    pciePacketSize.toNat ≤ 4 * eb.words ∧
    (initializeDmaChannel page ch (some eventBuffer) (some rb) .toHost pciePacketSize).1 = 0 ∧
    s = ⟨⟨EventStream.initial ring (initializeDmaChannel page ch (some eventBuffer) (some rb)
      .toHost pciePacketSize).2, 0, [], [], []⟩, memory, 0, 0, [], []⟩

/-- Only outstanding references are released. -/
def Disciplined (s : PayloadRun ring eb) : PayloadAction → Prop
  | .releaseEvent reference => s.run.Outstanding reference
  | _ => True

instance (s : PayloadRun ring eb) : (a : PayloadAction) → Decidable (s.Disciplined a)
  | .releaseEvent _ => inferInstanceAs (Decidable (∃ _ ∈ _, _))
  | .writeWords _ | .report _ _ | .getNextEvent => isTrue trivial

/-- Word `i` of the mapping of the event buffer, which shows it twice. -/
def mapped (s : PayloadRun ring eb) (i : Nat) : Option Word32 :=
  if i < 2 * eb.words then some (s.memory (i % eb.words)) else none

/-- What the host reads of an event, from `getRawEvent` on. -/
def readEvent (s : PayloadRun ring eb) (report : EventDescriptor) : List (Option Word32) :=
  (List.range report.calcWords).map fun i => s.mapped ((getRawEvent report).toNat + i)

end PayloadRun

/-- The ring and the event buffer under the host and the device. -/
def payloadSystem (ring : ReportRing) (eb : EventBuffer) :
    ActionSystem (PayloadRun ring eb) PayloadAction where
  init := PayloadRun.Initial
  step := PayloadRun.step

variable {ring : ReportRing} {eb : EventBuffer}

/-! ## The steps of the ring -/

/-- A channel just initialised has the event buffer pointer one packet before the
end. -/
theorem DmaChannel.getEBOffset_initializeDmaChannel {page : PageSize} {ch : DmaChannel}
    {eventBuffer rb : Buffer} {pciePacketSize : Word32}
    (done : (initializeDmaChannel page ch (some eventBuffer) (some rb) .toHost
      pciePacketSize).1 = 0) :
    (initializeDmaChannel page ch (some eventBuffer) (some rb) .toHost
      pciePacketSize).2.getEBOffset = eventBuffer.size - pciePacketSize.setWidth 64 := by
  have refused : efbig ≠ 0 := by decide
  have size : eventBuffer.sgList.2.size = eventBuffer.size := eventBuffer.sgList_snd_size
  rcases initializeDmaChannel_eq page ch eventBuffer rb .toHost pciePacketSize with
    ⟨configured, same⟩ | ⟨-, failed, -⟩
  · rw [same]
    rw [configure_toHost] at configured ⊢
    simp only at configured ⊢
    split_ifs at configured ⊢
    · rw [← size]
      exact recombine rfl rfl
    · exact absurd configured refused
    · exact absurd configured refused
  · exact absurd done failed

namespace RingRun

/-- What a write of the device changes. -/
theorem deviceWrite_spec {s s' : RingRun ring} {d : EventDescriptor}
    (taken : s.step (.deviceWrite d) = some s') :
    s'.written = s.written ++ [(s.writeSlot, d)] ∧ s'.frontier = s.frontier := by
  simp only [RingRun.step] at taken
  split at taken
  · obtain rfl := Option.some.inj taken
    exact ⟨rfl, rfl⟩
  · exact absurd taken (by simp)

/-- A delivery is out at once, so that the oldest one is the same as before. -/
theorem getNextEvent_spec {s s' : RingRun ring} (taken : s.step .getNextEvent = some s') :
    s'.written = s.written ∧ s'.frontier = s.frontier := by
  simp only [RingRun.step] at taken
  split at taken
  · obtain rfl := Option.some.inj taken
    exact ⟨rfl, rfl⟩
  · obtain rfl := Option.some.inj taken
    refine ⟨rfl, ?_⟩
    simp only [frontier, List.head?_append]
    cases s.outstanding.head? with
    | none => rfl
    | some k => rfl

end RingRun

namespace Tracks

variable {base : DmaChannel} {L : RingLedger ring} {s s' : RingRun ring}

theorem frontier_le_written (t : Tracks base L s) : s.frontier ≤ s.written.length := by
  rw [t.frontier_eq, t.length_written]
  exact L.frontier_le.trans L.delivered_le

/-- The read pointer is the start of the event released last. -/
theorem getEBOffset_eq (t : Tracks base L s) :
    s.stream.channel.getEBOffset =
      if s.frontier = 0 then base.getEBOffset
      else (descriptorAt L.written (s.frontier - 1)).offset := by
  have channel : s.stream.channel = publishedChannel ring base L.written L.frontier := by
    rw [t.stream]
    rfl
  rw [channel, publishedChannel, t.frontier_eq, lastOffset]
  split
  · rfl
  · exact DmaChannel.getEBOffset_setBufferOffsetsOnDevice ..

/-- A release does not move the frontier back. -/
theorem releaseEvent_spec (t : Tracks base L s) {reference : Nat} (out : s.Outstanding reference)
    (taken : s.step (.releaseEvent reference) = some s') :
    (∃ L', Tracks base L' s') ∧ s'.written = s.written ∧ s.frontier ≤ s'.frontier := by
  obtain ⟨k, below, notBack, rfl⟩ := t.outstanding_iff.mp out
  obtain rfl := Option.some.inj taken
  have t' := t.release below notBack
  refine ⟨⟨_, t'⟩, rfl, ?_⟩
  rw [t.frontier_eq, t'.frontier_eq]
  exact EventStream.frontier_le_giveBack below

end Tracks

/-! ## Where the events are -/

/-- The start of event `k`. -/
def startOf (sent : List (Nat × List Word32)) (k : Nat) : Nat := (sent[k]?.map Prod.fst).getD 0

theorem startOf_of_getElem? {sent : List (Nat × List Word32)} {k : Nat} {x : Nat × List Word32}
    (found : sent[k]? = some x) : startOf sent k = x.1 := by
  rw [startOf, found]
  rfl

/-- The number of the word at the read pointer, in the round after. -/
def limitOf (eb : EventBuffer) (packetWords : Nat) (sent : List (Nat × List Word32))
    (frontier : Nat) : Nat :=
  if frontier = 0 then eb.words - packetWords else startOf sent (frontier - 1) + eb.words

/-- The events behind one another, none before the end of the one before. -/
def Ordered (sent : List (Nat × List Word32)) : Prop :=
  sent.Pairwise fun x y => x.1 + x.2.length ≤ y.1

section Ordered

variable {sent : List (Nat × List Word32)} (ordered : Ordered sent)
include ordered

theorem Ordered.start_le {j k : Nat} {x y : Nat × List Word32} (le : j ≤ k)
    (before : sent[j]? = some x) (after : sent[k]? = some y) : x.1 ≤ y.1 := by
  rcases Nat.lt_or_eq_of_le le with lt | rfl
  · obtain ⟨insideJ, rfl⟩ := List.getElem?_eq_some_iff.mp before
    obtain ⟨insideK, rfl⟩ := List.getElem?_eq_some_iff.mp after
    have apart := List.pairwise_iff_getElem.mp ordered j k insideJ insideK lt
    omega
  · rw [before] at after
    rw [Option.some.inj after]

/-- The limit is less than a round ahead of every event from the frontier on. -/
theorem Ordered.limitOf_le {packetWords frontier k : Nat} {x : Nat × List Word32}
    (low : frontier ≤ k) (found : sent[k]? = some x) :
    limitOf eb packetWords sent frontier ≤ x.1 + eb.words := by
  unfold limitOf
  split
  · omega
  · have inside := (List.getElem?_eq_some_iff.mp found).1
    obtain ⟨y, before⟩ : ∃ y, sent[frontier - 1]? = some y :=
      ⟨_, List.getElem?_eq_getElem (show frontier - 1 < sent.length by omega)⟩
    rw [startOf_of_getElem? before]
    have le := ordered.start_le (show frontier - 1 ≤ k by omega) before found
    omega

theorem Ordered.limitOf_mono {packetWords frontier frontier' : Nat}
    (le : frontier ≤ frontier') (inside : frontier' ≤ sent.length) :
    limitOf eb packetWords sent frontier ≤ limitOf eb packetWords sent frontier' := by
  by_cases still : frontier' = frontier
  · rw [still]
  · obtain ⟨x, found⟩ : ∃ x, sent[frontier' - 1]? = some x :=
      ⟨_, List.getElem?_eq_getElem (show frontier' - 1 < sent.length by omega)⟩
    have low : limitOf eb packetWords sent frontier ≤ x.1 + eb.words :=
      ordered.limitOf_le (show frontier ≤ frontier' - 1 by omega) found
    have there : limitOf eb packetWords sent frontier' = x.1 + eb.words := by
      rw [limitOf, if_neg (by omega), startOf_of_getElem? found]
    rw [there]
    exact low

end Ordered

namespace PayloadRun

/-- Every event from the frontier on is where its descriptor says, and the device
is not past the read pointer. -/
structure Placed (packetWords : Nat) (s : PayloadRun ring eb) : Prop where
  lengths : s.sent.length = s.run.written.length
  described : ∀ (k : Nat) (x : Nat × List Word32) (w : Nat × EventDescriptor),
    s.sent[k]? = some x → s.run.written[k]? = some w →
      w.2.offset.toNat = 4 * (x.1 % eb.words) ∧ w.2.calcWords = x.2.length
  ordered : Ordered s.sent
  below : ∀ x ∈ s.sent, x.1 + x.2.length ≤ s.eventStart
  current : s.eventStart + s.payload.length = s.position
  window : s.position ≤ limitOf eb packetWords s.sent s.run.frontier
  stored : ∀ (k : Nat) (x : Nat × List Word32), s.run.frontier ≤ k → s.sent[k]? = some x →
    ringLoad eb.words s.memory x.1 x.2.length = x.2
  storedNow : ringLoad eb.words s.memory s.eventStart s.payload.length = s.payload

variable {packetWords : Nat} {s s' : PayloadRun ring eb}

theorem Placed.limit_le (placed : s.Placed packetWords)
    (frontier : s.run.frontier ≤ s.run.written.length) :
    limitOf eb packetWords s.sent s.run.frontier ≤ s.eventStart + eb.words := by
  have lengths := placed.lengths
  unfold limitOf
  split
  · omega
  · obtain ⟨x, found⟩ : ∃ x, s.sent[s.run.frontier - 1]? = some x :=
      ⟨_, List.getElem?_eq_getElem (show s.run.frontier - 1 < s.sent.length by omega)⟩
    have below := placed.below x (List.mem_of_getElem? found)
    rw [startOf_of_getElem? found]
    omega

/-- What the device writes in its room does not reach any event that is placed. -/
theorem Placed.writeWords (placed : s.Placed packetWords) {data : List Word32}
    (frontier : s.run.frontier ≤ s.run.written.length)
    (room : s.position + data.length ≤ limitOf eb packetWords s.sent s.run.frontier) :
    ({ s with
      memory := ringStore eb.words s.memory s.position data
      position := s.position + data.length
      payload := s.payload ++ data } : PayloadRun ring eb).Placed packetWords where
  lengths := placed.lengths
  described := placed.described
  ordered := placed.ordered
  below := placed.below
  current := by
    have current := placed.current
    show s.eventStart + (s.payload ++ data).length = s.position + data.length
    rw [List.length_append]
    omega
  window := room
  stored := by
    intro k x (low : s.run.frontier ≤ k) (found : s.sent[k]? = some x)
    have below := placed.below x (List.mem_of_getElem? found)
    have current := placed.current
    -- an event that is not released starts less than a whole buffer before the limit
    have near : limitOf eb packetWords s.sent s.run.frontier ≤ x.1 + eb.words :=
      placed.ordered.limitOf_le low found
    rw [ringLoad_ringStore_of_behind s.memory (by omega) (by omega)]
    exact placed.stored k x low found
  storedNow := by
    have near := placed.limit_le frontier
    have current := placed.current
    show ringLoad eb.words (ringStore eb.words s.memory s.position data) _ _ = _
    rw [← current]
    exact ringLoad_ringStore_append s.memory placed.storedNow (by omega)

/-- An item of a list with one more at its end. -/
theorem getElem?_concat {α : Type} {l : List α} {a x : α} {k : Nat}
    (found : (l ++ [a])[k]? = some x) : l[k]? = some x ∨ k = l.length ∧ x = a := by
  by_cases old : k < l.length
  · rw [List.getElem?_append_left old] at found
    exact .inl found
  · rw [List.getElem?_append_right (Nat.not_lt.mp old), List.getElem?_singleton] at found
    split_ifs at found with last
    exact .inr ⟨by omega, (Option.some.inj found).symm⟩

/-- The report of the event that is being written. -/
theorem Placed.report (placed : s.Placed packetWords) {d : EventDescriptor} {padding : Nat}
    {run : RingRun ring} (describes : s.Describes d)
    (taken : s.run.step (.deviceWrite d) = some run)
    (frontier : s.run.frontier ≤ s.run.written.length)
    (room : s.position + padding ≤ limitOf eb packetWords s.sent s.run.frontier) :
    ({ run := run
       memory := s.memory
       position := s.position + padding
       eventStart := s.position + padding
       payload := []
       sent := s.sent ++ [(s.eventStart, s.payload)] } : PayloadRun ring eb).Placed
      packetWords := by
  obtain ⟨written, still⟩ := RingRun.deviceWrite_spec taken
  have lengths := placed.lengths
  have current := placed.current
  exact
    { lengths := by
        rw [written, List.length_append, List.length_append, lengths]
        rfl
      described := by
        intro k x w sent wrote
        rw [written] at wrote
        -- an event that was reported before, or the one that is now
        rcases getElem?_concat sent with old | ⟨last, rfl⟩
        · have below := (List.getElem?_eq_some_iff.mp old).1
          rcases getElem?_concat wrote with old' | ⟨last', -⟩
          · exact placed.described k x w old old'
          · omega
        · rcases getElem?_concat wrote with old' | ⟨-, rfl⟩
          · have below := (List.getElem?_eq_some_iff.mp old').1
            omega
          · exact describes
      ordered := by
        refine List.pairwise_append.mpr ⟨placed.ordered, List.pairwise_singleton _ _, ?_⟩
        intro x mem y last
        rw [List.mem_singleton.mp last]
        exact placed.below x mem
      below := by
        intro x mem
        rcases List.mem_append.mp mem with old | last
        · have below := placed.below x old
          show x.1 + x.2.length ≤ s.position + padding
          omega
        · rw [List.mem_singleton.mp last]
          show s.eventStart + s.payload.length ≤ s.position + padding
          omega
      current := rfl
      window := by
        -- the report does not move the frontier, and with it the limit
        have same : limitOf eb packetWords (s.sent ++ [(s.eventStart, s.payload)]) run.frontier =
            limitOf eb packetWords s.sent s.run.frontier := by
          rw [still]
          unfold limitOf
          split
          · rfl
          · rw [startOf, startOf, List.getElem?_append_left (by omega)]
        rw [same]
        exact room
      stored := by
        intro k x low found
        rw [still] at low
        rcases getElem?_concat found with old | ⟨-, rfl⟩
        · exact placed.stored k x low old
        · exact placed.storedNow
      storedNow := rfl }

/-- The host moves the frontier, which gives the device more room. -/
theorem Placed.host (placed : s.Placed packetWords) {run : RingRun ring}
    (written : run.written = s.run.written) (low : s.run.frontier ≤ run.frontier)
    (high : run.frontier ≤ run.written.length) :
    ({ s with run := run } : PayloadRun ring eb).Placed packetWords where
  lengths := placed.lengths.trans (congrArg List.length written).symm
  described := by
    show ∀ (k : Nat) (x : Nat × List Word32) (w : Nat × EventDescriptor),
      s.sent[k]? = some x → run.written[k]? = some w → _
    rw [written]
    exact placed.described
  ordered := placed.ordered
  below := placed.below
  current := placed.current
  window := placed.window.trans
    (placed.ordered.limitOf_mono low (by rw [placed.lengths, ← written]; exact high))
  stored := fun k x above => placed.stored k x (low.trans above)
  storedNow := placed.storedNow

/-! ## Whole runs -/

/-- What holds in every state of a run. -/
structure Kept (base : DmaChannel) (packetWords : Nat) (s : PayloadRun ring eb) : Prop where
  tracks : ∃ L, Tracks base L s.run
  start : base.getEBOffset.toNat = 4 * (eb.words - packetWords)
  packet_pos : 0 < packetWords
  placed : s.Placed packetWords

variable {base : DmaChannel}

/-- The read pointer is at the limit. -/
theorem Kept.readWord_eq (kept : s.Kept base packetWords) :
    s.readWord = limitOf eb packetWords s.sent s.run.frontier % eb.words := by
  obtain ⟨L, t⟩ := kept.tracks
  have positive := eb.words_pos
  have packet := kept.packet_pos
  have inside := t.frontier_le_written
  have lengths := kept.placed.lengths
  rw [readWord, t.getEBOffset_eq, limitOf]
  split
  · rw [kept.start, Nat.mul_div_cancel_left _ (by omega), Nat.mod_eq_of_lt (by omega)]
  · obtain ⟨x, found⟩ : ∃ x, s.sent[s.run.frontier - 1]? = some x :=
      ⟨_, List.getElem?_eq_getElem (show s.run.frontier - 1 < s.sent.length by omega)⟩
    -- the pointer was published from the report of that event
    have wrote := t.getElem?_written (show s.run.frontier - 1 < L.written.length by
      rw [← t.length_written]
      omega)
    have offset := (kept.placed.described _ _ _ found wrote).1
    rw [offset, Nat.mul_div_cancel_left _ (by omega), startOf_of_getElem? found,
      Nat.add_mod_right]

/-- The device's room ends at the limit. -/
theorem Kept.room (kept : s.Kept base packetWords) {n : Nat} (fits : n ≤ s.room) :
    s.position + n ≤ limitOf eb packetWords s.sent s.run.frontier := by
  obtain ⟨L, t⟩ := kept.tracks
  have near := kept.placed.limit_le t.frontier_le_written
  have current := kept.placed.current
  rw [PayloadRun.room, kept.readWord_eq] at fits
  have most := add_ringRoom_le eb.words_pos kept.placed.window (by omega)
  omega

theorem Kept.step (kept : s.Kept base packetWords) {a : PayloadAction}
    (allowed : s.Disciplined a) (taken : s.step a = some s') : s'.Kept base packetWords := by
  obtain ⟨L, t⟩ := kept.tracks
  have inside := t.frontier_le_written
  cases a with
  | writeWords data =>
      simp only [PayloadRun.step] at taken
      split at taken
      · rename_i fits
        obtain rfl := Option.some.inj taken
        exact ⟨⟨L, t⟩, kept.start, kept.packet_pos,
          kept.placed.writeWords inside (kept.room fits)⟩
      · exact absurd taken (by simp)
  | report d padding =>
      simp only [PayloadRun.step] at taken
      split at taken
      · rename_i allowed
        obtain ⟨run, written, rfl⟩ := Option.map_eq_some_iff.mp taken
        obtain ⟨L', t', -⟩ := t.write written
        exact ⟨⟨L', t'⟩, kept.start, kept.packet_pos,
          kept.placed.report allowed.1 written inside (kept.room allowed.2)⟩
      · exact absurd taken (by simp)
  | getNextEvent =>
      simp only [PayloadRun.step, hostStep] at taken
      obtain ⟨run, delivered, rfl⟩ := Option.map_eq_some_iff.mp taken
      obtain ⟨L', t'⟩ := t.getNextEvent delivered
      obtain ⟨written, still⟩ := RingRun.getNextEvent_spec delivered
      exact ⟨⟨L', t'⟩, kept.start, kept.packet_pos,
        kept.placed.host written (Nat.le_of_eq still.symm) t'.frontier_le_written⟩
  | releaseEvent reference =>
      simp only [PayloadRun.step, hostStep] at taken
      obtain ⟨run, released, rfl⟩ := Option.map_eq_some_iff.mp taken
      obtain ⟨⟨L', t'⟩, written, moved⟩ := t.releaseEvent_spec allowed released
      exact ⟨⟨L', t'⟩, kept.start, kept.packet_pos,
        kept.placed.host written moved t'.frontier_le_written⟩

/-- The read pointer starts one packet before the end. -/
theorem Kept.initial (start : s.Initial) :
    ∃ base packetWords, s.Kept base packetWords := by
  obtain ⟨page, ch, eventBuffer, rb, packet, memory, ebSize, rbSize, positive, whole, small, done,
    rfl⟩ := start
  have pointer := DmaChannel.getEBOffset_initializeDmaChannel done
  have widened : (packet.setWidth 64).toNat = packet.toNat := by
    rw [BitVec.toNat_setWidth]
    exact Nat.mod_eq_of_lt (by omega)
  have words := eb.words_pos
  refine ⟨_, packet.toNat / 4, ⟨Ledger.empty ring.maxRbEntries_pos,
    { start := pointerSlot_initializeDmaChannel rbSize done
      stream := (EventStream.ofLedger_empty _).symm
      writeSlot := rfl
      written := rfl
      delivered := rfl
      outstanding := rfl }⟩, ?_, ?_, ?_⟩
  · rw [pointer, BitVec.toNat_sub_of_le (by rw [BitVec.le_def]; omega), ebSize, widened]
    omega
  · omega
  · exact
      { lengths := rfl
        described := fun k x w none => absurd none (by simp)
        ordered := List.Pairwise.nil
        below := fun x mem => absurd mem List.not_mem_nil
        current := rfl
        window := Nat.zero_le _
        stored := fun k x low none => absurd none (by simp)
        storedNow := rfl }

theorem kept (reached : (payloadSystem ring eb).Reached Disciplined s) :
    ∃ base packetWords, s.Kept base packetWords := by
  refine @ActionSystem.Reached.invariant _ _ _ _ _
    (fun s => ∃ base packetWords, s.Kept base packetWords) ?_ ?_ reached
  · exact fun s start => Kept.initial start
  · rintro s a s' ⟨base, packetWords, kept⟩ allowed taken
    exact ⟨base, packetWords, kept.step allowed taken⟩

/-! ## Reading -/

/-- What the host reads is in the ring, and inside the mapping. -/
theorem readEvent_eq {report : EventDescriptor} {start : Nat}
    (offset : report.offset.toNat = 4 * (start % eb.words))
    (short : report.calcWords ≤ eb.words) :
    s.readEvent report = (ringLoad eb.words s.memory start report.calcWords).map some := by
  have bound := Nat.mod_lt start eb.words_pos
  have first : (getRawEvent report).toNat = start % eb.words := by
    rw [getRawEvent, BitVec.toNat_udiv, offset]
    exact Nat.mul_div_cancel_left _ (by omega)
  rw [readEvent, ← ringLoad_mod, ringLoad, List.map_map, first]
  refine List.map_congr_left ?_
  intro i inside
  rw [List.mem_range] at inside
  exact if_pos (by omega)

/-- An event that was reported and not released is read as it was written. -/
theorem Kept.readEvent (kept : s.Kept base packetWords) {k : Nat}
    (low : s.run.frontier ≤ k) {w : Nat × EventDescriptor}
    (wrote : s.run.written[k]? = some w) :
    ∃ x, s.sent[k]? = some x ∧ s.readEvent w.2 = x.2.map some := by
  obtain ⟨L, t⟩ := kept.tracks
  have placed := kept.placed
  have inside := (List.getElem?_eq_some_iff.mp wrote).1
  obtain ⟨x, found⟩ : ∃ x, s.sent[k]? = some x :=
    ⟨_, List.getElem?_eq_getElem (show k < s.sent.length by rw [placed.lengths]; exact inside)⟩
  obtain ⟨offset, size⟩ := placed.described k x w found wrote
  have near : limitOf eb packetWords s.sent s.run.frontier ≤ x.1 + eb.words :=
    placed.ordered.limitOf_le low found
  have below := placed.below x (List.mem_of_getElem? found)
  have current := placed.current
  have window := placed.window
  refine ⟨x, found, ?_⟩
  rw [readEvent_eq offset (by omega), size, placed.stored k x low found]

end PayloadRun

/-- 256 bytes. -/
def smallEventBuffer : EventBuffer := ⟨64, by decide, by decide⟩

/-- The ring and the event buffer right after `initializeDmaChannel`. -/
def payloadStart : PayloadRun fourSlotRing smallEventBuffer where
  run :=
    { stream := EventStream.initial fourSlotRing (initializeDmaChannel .fourKiB
        sixteenEntryChannel (some (oneSegmentBuffer 0x10000 0x100))
          (some (oneSegmentBuffer 0x40000 0x80)) .toHost 64).2
      writeSlot := 0
      written := []
      delivered := []
      outstanding := [] }
  memory := fun _ => 0
  position := 0
  eventStart := 0
  payload := []
  sent := []

theorem payloadStart_initial : payloadStart.Initial :=
  ⟨.fourKiB, sixteenEntryChannel, oneSegmentBuffer 0x10000 0x100, oneSegmentBuffer 0x40000 0x80,
    64, fun _ => 0, by decide, by decide, by decide, by decide, by decide, by decide, rfl⟩

/-- Two events, and after the release of both a third one across the end of the
buffer. -/
def fetchAcrossEnd : List PayloadAction :=
  [.writeWords [1, 2, 3], .report (descriptorOf 0 3) 13, .getNextEvent,
    .writeWords (List.replicate 24 4), .report (descriptorOf 64 24) 8, .getNextEvent,
    .releaseEvent 0, .releaseEvent 1, .writeWords (List.replicate 20 5),
    .report (descriptorOf 192 20) 0, .getNextEvent]

end Librorc
