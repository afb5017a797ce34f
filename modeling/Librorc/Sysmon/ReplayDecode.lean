import Librorc.Sysmon.ReplayRam

/-!
# Reading the data replay back

What the header of a block says: its mask, flags and channel do not overlap, so
each can be read from it. Reading the blocks from the start address on then
joins the pieces the events were cut in.
-/

namespace Librorc

open Librorc.Lib

/-! ## The header -/

/-- The three fields of a header have no bit in common. -/
structure FieldsDisjoint (mask : Word16) (flags : Word32) (channel : Nat) : Prop where
  maskFlags : (mask.setWidth 32 <<< 16) &&& flags = 0#32
  maskSelect : (mask.setWidth 32 <<< 16) &&& (channelSelect channel).setWidth 32 = 0#32
  flagsSelect : flags &&& (channelSelect channel).setWidth 32 = 0#32

theorem flag_getLsbD {n : Nat} (small : n < 32) (i : Nat) :
    (1#32 <<< n).getLsbD i = decide (i = n) := by
  rw [← BitVec.twoPow_eq, BitVec.getLsbD_twoPow, decide_eq_true small, Bool.true_and]
  exact decide_eq_decide.mpr eq_comm

/-- The flags of a block are bits 8 to 10, as far as they are set. -/
theorem flags_getLsbD (block : ReplayBlock) (i : Nat) :
    block.flags.getLsbD i =
      (block.eoe && ((decide (i = 8) || (block.diuError && decide (i = 10))) ||
        (block.last && decide (i = 9)))) := by
  have eoe : dataReplayEoe.getLsbD i = decide (i = 8) := flag_getLsbD (by omega) i
  have last : dataReplayEnd.getLsbD i = decide (i = 9) := flag_getLsbD (by omega) i
  have diuError : dataReplayDiuError.getLsbD i = decide (i = 10) := flag_getLsbD (by omega) i
  unfold ReplayBlock.flags endFlags
  cases block.eoe <;> cases block.last <;> cases block.diuError <;>
    simp [-BitVec.getLsbD_eq_getElem, BitVec.getLsbD_or, eoe, last, diuError]

theorem mask_getLsbD (mask : Word16) (i : Nat) :
    (mask.setWidth 32 <<< 16 : Word32).getLsbD i = (decide (16 ≤ i) && mask.getLsbD (i - 16)) := by
  rw [BitVec.getLsbD_shiftLeft, BitVec.getLsbD_setWidth]
  by_cases inWord : i < 32
  · by_cases low : i < 16
    · simp [low]
    · simp [inWord, low, show i - 16 < 32 by omega]
      omega
  · rw [BitVec.getLsbD_of_ge mask (i - 16) (by omega)]
    simp

theorem select_getLsbD (channel i : Nat) (high : 8 ≤ i) :
    ((channelSelect channel).setWidth 32 : Word32).getLsbD i = false := by
  rw [BitVec.getLsbD_setWidth, BitVec.getLsbD_of_ge (channelSelect channel) i high, Bool.and_false]

/-- Words that have no bit in common. -/
theorem and_eq_zero {x y : Word32} (apart : ∀ i, (x.getLsbD i && y.getLsbD i) = false) :
    x &&& y = 0#32 := by
  apply BitVec.eq_of_getLsbD_eq
  intro i _
  rw [BitVec.getLsbD_and, apart, BitVec.getLsbD_zero]

theorem fieldsDisjoint (mask : Word16) (block : ReplayBlock) (channel : Nat) :
    FieldsDisjoint mask block.flags channel := by
  refine ⟨and_eq_zero ?_, and_eq_zero ?_, and_eq_zero ?_⟩
  · intro i
    rw [mask_getLsbD, flags_getLsbD]
    by_cases high : 16 ≤ i
    · simp [show i ≠ 8 by omega, show i ≠ 9 by omega, show i ≠ 10 by omega]
    · rw [decide_eq_false high, Bool.false_and, Bool.false_and]
  · intro i
    rw [mask_getLsbD]
    by_cases high : 16 ≤ i
    · rw [select_getLsbD channel i (by omega), Bool.and_false]
    · rw [decide_eq_false high, Bool.false_and, Bool.false_and]
  · intro i
    rw [flags_getLsbD]
    by_cases high : 8 ≤ i
    · rw [select_getLsbD channel i high, Bool.and_false]
    · simp [show i ≠ 8 by omega, show i ≠ 9 by omega, show i ≠ 10 by omega]

/-- The upper half of a header is the mask. -/
theorem header_mask (mask : Word16) (block : ReplayBlock) (channel : Nat) (i : Nat) :
    (replayHeader mask block.flags channel >>> 16).getLsbD i = mask.getLsbD i := by
  unfold replayHeader
  rw [BitVec.getLsbD_ushiftRight, BitVec.getLsbD_or, BitVec.getLsbD_or, mask_getLsbD,
    flags_getLsbD, select_getLsbD channel (16 + i) (by omega)]
  simp [show 16 + i ≠ 8 by omega, show 16 + i ≠ 9 by omega, show 16 + i ≠ 10 by omega]

/-- A flag in the header. -/
theorem header_flag {n : Nat} (low : 8 ≤ n) (high : n < 16) (mask : Word16) (block : ReplayBlock)
    (channel : Nat) :
    replayHeader mask block.flags channel &&& 1#32 <<< n ≠ 0#32 ↔
      block.flags.getLsbD n = true := by
  have bit : (replayHeader mask block.flags channel).getLsbD n = block.flags.getLsbD n := by
    unfold replayHeader
    rw [BitVec.getLsbD_or, BitVec.getLsbD_or, mask_getLsbD, select_getLsbD channel n low,
      decide_eq_false (by omega), Bool.false_and, Bool.false_or, Bool.or_false]
  rw [← BitVec.twoPow_eq, BitVec.and_twoPow, bit]
  cases block.flags.getLsbD n with
  | false => simp
  | true =>
      refine iff_of_true ?_ rfl
      rw [if_pos rfl]
      intro zero
      have set := flag_getLsbD (show n < 32 by omega) n
      rw [← BitVec.twoPow_eq, zero] at set
      simp at set

theorem header_eoe (mask : Word16) (block : ReplayBlock) (channel : Nat) :
    replayHeader mask block.flags channel &&& dataReplayEoe ≠ 0#32 ↔ block.eoe = true := by
  refine (header_flag (by omega) (by omega) mask block channel).trans ?_
  rw [flags_getLsbD]
  simp

theorem header_end (mask : Word16) (block : ReplayBlock) (channel : Nat) :
    replayHeader mask block.flags channel &&& dataReplayEnd ≠ 0#32 ↔
      block.eoe = true ∧ block.last = true := by
  refine (header_flag (by omega) (by omega) mask block channel).trans ?_
  rw [flags_getLsbD]
  simp

/-! ## Blocks -/

theorem filterMap_range_lt {α : Type*} (g : Nat → α) {len n : Nat} (fits : len ≤ n) :
    ((List.range n).filterMap fun i => if i < len then some (g i) else none) =
      (List.range len).map g := by
  obtain ⟨more, rfl⟩ := Nat.exists_eq_add_of_le fits
  rw [List.range_add, List.filterMap_append]
  have inside : ((List.range len).filterMap fun i => if i < len then some (g i) else none) =
      (List.range len).map g := by
    rw [← List.filterMap_eq_map]
    apply List.filterMap_congr
    intro i mem
    exact if_pos (List.mem_range.mp mem)
  have outside : (((List.range more).map (len + ·)).filterMap
      fun i => if i < len then some (g i) else none) = [] := by
    rw [List.filterMap_eq_nil_iff]
    intro i mem
    obtain ⟨j, -, rfl⟩ := List.mem_map.mp mem
    exact if_neg (by omega)
  rw [inside, outside, List.append_nil]

/-- The mask of a block selects its items. -/
theorem Encodes.selectedDws_eq {channel : Nat} {block : ReplayBlock} {words : Nat → Word32}
    (encodes : Encodes channel block words) : selectedDws words = block.items := by
  unfold selectedDws
  have select : ∀ i ∈ List.range replayDws,
      (if (words 0 >>> 16).getLsbD i then some (words (i + 1)) else none) =
        if i < block.items.length then some (words (i + 1)) else none := by
    intro i mem
    rw [encodes.header, header_mask, dwMask_getLsbD _ encodes.fits i (List.mem_range.mp mem)]
    simp only [decide_eq_true_eq]
  rw [List.filterMap_congr select, filterMap_range_lt _ encodes.fits]
  apply List.ext_getElem
  · rw [List.length_map, List.length_range]
  · intro i _ inBlock
    rw [List.getElem_map, List.getElem_range]
    exact encodes.data i inBlock

theorem Encodes.eoe_iff {channel : Nat} {block : ReplayBlock} {words : Nat → Word32}
    (encodes : Encodes channel block words) :
    words 0 &&& dataReplayEoe ≠ 0#32 ↔ block.eoe = true := by
  rw [encodes.header]
  exact header_eoe _ block channel

theorem Encodes.end_iff {channel : Nat} {block : ReplayBlock} {words : Nat → Word32}
    (encodes : Encodes channel block words) :
    words 0 &&& dataReplayEnd ≠ 0#32 ↔ block.eoe = true ∧ block.last = true := by
  rw [encodes.header]
  exact header_end _ block channel

def ReplayBlock.piece (block : ReplayBlock) : Piece Word32 := ⟨block.items, block.eoe⟩

/-- The last block of the data, and no other, is marked as such; it ends an
event. -/
def LastMarked : List ReplayBlock → Prop
  | [] => False
  | [block] => block.last = true ∧ block.eoe = true
  | block :: next :: rest => block.last = false ∧ LastMarked (next :: rest)

theorem lastMarked_append {first second : List ReplayBlock}
    (unmarked : ∀ block ∈ first, block.last = false) (marked : LastMarked second) :
    LastMarked (first ++ second) := by
  induction first with
  | nil => exact marked
  | cons block rest ih =>
      have later := ih fun block' mem => unmarked block' (List.mem_cons_of_mem _ mem)
      rw [List.cons_append]
      cases tail : rest ++ second with
      | nil =>
          rw [tail] at later
          exact later.elim
      | cons next tail' =>
          refine ⟨unmarked block List.mem_cons_self, ?_⟩
          rw [← tail]
          exact later

theorem lastMarked_getElem {blocks : List ReplayBlock} (marked : LastMarked blocks) (j : Nat)
    (inRange : j < blocks.length) :
    (blocks[j].eoe = true ∧ blocks[j].last = true) ↔ j + 1 = blocks.length := by
  induction blocks generalizing j with
  | nil => cases inRange
  | cons block rest ih =>
      cases rest with
      | nil =>
          obtain rfl := Nat.lt_one_iff.mp inRange
          exact iff_of_true ⟨marked.2, marked.1⟩ rfl
      | cons next rest =>
          cases j with
          | zero =>
              refine iff_of_false ?_ ?_
              · rintro ⟨-, last⟩
                exact absurd (marked.1.symm.trans last) Bool.false_ne_true
              · simp
          | succ j =>
              refine (ih marked.2 j (Nat.lt_of_succ_lt_succ inRange)).trans ?_
              rw [List.length_cons (a := block)]
              omega

/-- Reading marked blocks joins their pieces. -/
theorem replayDecode_blocks {channel a : Nat} {ram : Word32 → Nat → Word32}
    {blocks : List ReplayBlock} (holds : RamHolds channel ram a blocks) (marked : LastMarked blocks)
    (front : List Word32) :
    replayDecode ram blocks.length (blockAddr a) front =
      some (joinPieces front (blocks.map ReplayBlock.piece)) := by
  induction blocks generalizing a front with
  | nil => exact marked.elim
  | cons block rest ih =>
      obtain ⟨encodes, later⟩ := holds
      rw [List.length_cons, List.map_cons]
      unfold replayDecode ReplayBlock.piece
      simp only [encodes.selectedDws_eq, encodes.eoe_iff, encodes.end_iff, joinPieces_cons]
      cases rest with
      | nil =>
          rw [if_pos ⟨marked.2, marked.1⟩, if_pos marked.2, if_pos marked.2]
          rfl
      | cons next rest =>
          obtain ⟨more, marked⟩ := marked
          have goesOn : ¬(block.eoe = true ∧ block.last = true) := by
            rintro ⟨-, last⟩
            exact absurd (more.symm.trans last) Bool.false_ne_true
          rw [if_neg goesOn, blockAddr_succ, ih later marked]
          cases block.eoe with
          | true => rfl
          | false => rfl

/-! ## Events -/

theorem runBlocks_piece (events : List ReplayEvent) :
    (runBlocks events).map ReplayBlock.piece =
      (events.map ReplayEvent.data).flatMap (pieces replayDws) := by
  induction events with
  | nil => rfl
  | cons event rest ih =>
      have here (lastEvent diuError : Bool) (data : List Word32) :
          (eventBlocks lastEvent diuError data).map ReplayBlock.piece = pieces replayDws data := by
        unfold eventBlocks
        rw [List.map_map]
        exact List.map_id _
      unfold runBlocks
      rw [List.map_append, here, ih]
      rfl

theorem eventBlocks_unmarked (diuError : Bool) (data : List Word32) :
    ∀ block ∈ eventBlocks false diuError data, block.last = false := by
  intro block mem
  obtain ⟨piece, -, rfl⟩ := List.mem_map.mp mem
  exact Bool.and_false piece.ends

theorem eventBlocks_marked (diuError : Bool) (data : List Word32) :
    LastMarked (eventBlocks true diuError data) := by
  induction data using pieces_induction (show 0 < replayDws by decide) with
  | short data less =>
      rw [eventBlocks_short less]
      exact ⟨rfl, rfl⟩
  | long data more ih =>
      rw [eventBlocks_long more]
      refine @lastMarked_append [_] _ ?_ ih
      intro block mem
      rw [List.mem_singleton.mp mem]

theorem runBlocks_marked {events : List ReplayEvent} (some : events ≠ []) :
    LastMarked (runBlocks events) := by
  induction events with
  | nil => exact absurd rfl some
  | cons event rest ih =>
      unfold runBlocks
      cases rest with
      | nil =>
          rw [runBlocks, List.append_nil]
          exact eventBlocks_marked event.diuError event.data
      | cons next rest =>
          exact lastMarked_append (eventBlocks_unmarked event.diuError event.data)
            (ih (List.cons_ne_nil next rest))

/-- What the headers of the blocks of a run say: the fields are apart, an event
ends where its last word is, and the data ends with the last event. -/
structure ReplayHeaders (channel : Nat) (ram : Word32 → Nat → Word32) (start : Word32)
    (events : List ReplayEvent) : Prop where
  fields : ∀ j < replayBlocks events, ∃ n ≤ replayDws, ∃ flags,
    ram (start + BitVec.ofNat 32 (8 * j)) 0 = replayHeader (dwMask n) flags channel ∧
      FieldsDisjoint (dwMask n) flags channel
  eoe : ∀ j < replayBlocks events,
    ram (start + BitVec.ofNat 32 (8 * j)) 0 &&& dataReplayEoe ≠ 0#32 ↔
      ∃ m < events.length, j + 1 = replayBlocks (events.take (m + 1))
  ends : ∀ j < replayBlocks events,
    ram (start + BitVec.ofNat 32 (8 * j)) 0 &&& dataReplayEnd ≠ 0#32 ↔
      j + 1 = replayBlocks events

theorem runBlocks_eoe_iff {events : List ReplayEvent}
    (nonempty : ∀ event ∈ events, event.data ≠ []) (j : Nat)
    (inRange : j < (runBlocks events).length) :
    (runBlocks events)[j].eoe = true ↔
      ∃ m < events.length, j + 1 = replayBlocks (events.take (m + 1)) := by
  have count (m : Nat) :
      (((events.map ReplayEvent.data).take (m + 1)).flatMap (pieces replayDws)).length =
        replayBlocks (events.take (m + 1)) := by
    rw [← List.map_take, ← runBlocks_piece, List.length_map]
    exact length_runBlocks fun event mem => nonempty event (List.mem_of_mem_take mem)
  have inPieces : j < ((events.map ReplayEvent.data).flatMap (pieces replayDws)).length := by
    rw [← runBlocks_piece, List.length_map]
    exact inRange
  have same : ((events.map ReplayEvent.data).flatMap (pieces replayDws))[j].ends =
      (runBlocks events)[j].eoe := by
    simp only [← runBlocks_piece, List.getElem_map]
    rfl
  rw [← same, flatMap_pieces_ends_iff (by decide), List.length_map]
  simp only [count]

theorem replayHeaders_of_holds {channel a : Nat} {ram : Word32 → Nat → Word32}
    {events : List ReplayEvent} (nonempty : ∀ event ∈ events, event.data ≠ [])
    (holds : RamHolds channel ram a (runBlocks events)) :
    ReplayHeaders channel ram (blockAddr a) events := by
  have count := length_runBlocks nonempty
  refine ⟨?_, ?_, ?_⟩
  · intro j inRange
    have encodes := ramHolds_getElem holds j (count ▸ inRange)
    rw [blockAddr_add]
    exact ⟨_, encodes.fits, _, encodes.header, fieldsDisjoint _ _ channel⟩
  · intro j inRange
    have encodes := ramHolds_getElem holds j (count ▸ inRange)
    rw [blockAddr_add, encodes.eoe_iff]
    exact runBlocks_eoe_iff nonempty j (count ▸ inRange)
  · intro j inRange
    have encodes := ramHolds_getElem holds j (count ▸ inRange)
    have some : events ≠ [] := by
      rintro rfl
      exact absurd inRange (Nat.not_lt_zero j)
    rw [blockAddr_add, encodes.end_iff]
    refine (lastMarked_getElem (runBlocks_marked some) j (count ▸ inRange)).trans ?_
    rw [count]

/-- Events written to RAM one after the other are read back as they were. -/
theorem dataReplay_roundtrip {channel : Nat} (valid : channel ≤ 11) (start : Word32)
    (aligned : start.toNat % 8 = 0) (events : List ReplayEvent)
    (nonempty : ∀ event ∈ events, event.data ≠ [])
    (room : start.toNat + 8 * replayBlocks events ≤ 2 ^ 31) (stack : Word32 → Nat → Word32)
    (d : ReplayDevice) (acks : ∀ n, d.latency n ≤ sysmonDrTimeout) :
    ∃ d', writeEvents channel stack events start d = (.ok (expectedAddrs start events), d') ∧
      (events ≠ [] →
        replayDecode (d'.ram (controllerSelect channel)) (replayBlocks events) start [] =
          some (events.map ReplayEvent.data)) ∧
      ReplayHeaders channel (d'.ram (controllerSelect channel)) start events := by
  have count := length_runBlocks nonempty
  have startBlock : start = blockAddr (start.toNat / 8) := by
    unfold blockAddr
    rw [show 8 * (start.toNat / 8) = start.toNat by omega, BitVec.ofNat_toNat, BitVec.setWidth_eq]
  rw [startBlock]
  obtain ⟨d', written, -, holds⟩ := writeEvents_spec stack valid nonempty
    (show start.toNat / 8 + (runBlocks events).length ≤ 2 ^ 28 by omega) acks
  refine ⟨d', written, ?_, replayHeaders_of_holds nonempty holds⟩
  intro some
  rw [← count, replayDecode_blocks holds (runBlocks_marked some), runBlocks_piece,
    joinPieces_flatMap_pieces (by decide)]

/-- A device that is always done at once. -/
def promptReplayDevice : ReplayDevice :=
  ⟨fun _ => 0, fun _ _ _ => 0, 0, none, fun _ => 0, 0⟩

/-- An event of 15 words and one of a single word. -/
theorem dataReplay_roundtrip_two :
    let events : List ReplayEvent := [⟨List.replicate 15 7, false⟩, ⟨[9], true⟩]
    ∃ d', writeEvents 6 (fun _ _ => 0xdead#32) events 64 promptReplayDevice =
        (.ok (expectedAddrs 64 events), d') ∧
      (events ≠ [] →
        replayDecode (d'.ram (controllerSelect 6)) (replayBlocks events) 64 [] =
          some (events.map ReplayEvent.data)) ∧
      ReplayHeaders 6 (d'.ram (controllerSelect 6)) 64 events :=
  dataReplay_roundtrip (by omega) 64 (by decide) _ (by decide) (by decide) _ promptReplayDevice
    (fun _ => Nat.zero_le _)

end Librorc
