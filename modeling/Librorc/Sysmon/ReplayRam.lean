import Librorc.Lib.Pieces
import Librorc.Sysmon.Replay
import Mathlib.Data.List.GetD

/-!
# What the data replay leaves in RAM

The specification of a block write, then of the loop over the blocks of an
event, then of events one after the other: which blocks stand where, and that
every other block is as it was.
-/

namespace Librorc

open Librorc.Lib

/-- The address of block `a`. -/
def blockAddr (a : Nat) : Word32 := BitVec.ofNat 32 (8 * a)

theorem blockAddr_add (a n : Nat) : blockAddr a + BitVec.ofNat 32 (8 * n) = blockAddr (a + n) := by
  unfold blockAddr
  rw [Nat.mul_add, BitVec.ofNat_add]

theorem blockAddr_succ (a : Nat) : blockAddr a + 8 = blockAddr (a + 1) := blockAddr_add a 1

theorem blockAddr_inj {a b : Nat} (smallA : a < 2 ^ 28) (smallB : b < 2 ^ 28)
    (same : blockAddr a = blockAddr b) : a = b := by
  unfold blockAddr at same
  rw [← BitVec.toNat_inj, BitVec.toNat_ofNat, BitVec.toNat_ofNat] at same
  omega

/-- The bits that the address of a block leaves to the destination. -/
theorem blockAddr_getLsbD {a i : Nat} (small : a < 2 ^ 28) (outside : i < 3 ∨ i = 31) :
    (blockAddr a).getLsbD i = false := by
  unfold blockAddr
  rw [BitVec.getLsbD_ofNat]
  rcases outside with low | rfl
  · rw [show 8 * a = 2 ^ 3 * a from rfl, Nat.testBit_two_pow_mul,
      decide_eq_false (show ¬i ≥ 3 by omega)]
    simp
  · rw [Nat.testBit_lt_two_pow (by omega)]
    simp

theorem addrMask_getLsbD : ∀ i < 32, (0x7ffffffc#32).getLsbD i = decide (2 ≤ i ∧ i ≠ 31) := by
  decide

/-! ## The control word -/

theorem blockAddr_and_mask {a : Nat} (small : a < 2 ^ 28) :
    blockAddr a &&& 0x7ffffffc#32 = blockAddr a := by
  apply BitVec.eq_of_getLsbD_eq
  intro i inRange
  rw [BitVec.getLsbD_and, addrMask_getLsbD i inRange]
  by_cases inside : 2 ≤ i ∧ i ≠ 31
  · rw [decide_eq_true inside, Bool.and_true]
  · rw [decide_eq_false inside, Bool.and_false]
    exact (blockAddr_getLsbD small (by omega)).symm

/-- The command of a block write. -/
def replayCtrl (a controller : Nat) : Word32 := blockAddr a ||| 1#32 <<< controller

theorem replayCtrl_getLsbD {a controller : Nat} (small : a < 2 ^ 28) (i : Nat) (low : i < 2) :
    (replayCtrl a controller).getLsbD i = decide (i = controller) := by
  unfold replayCtrl
  rw [BitVec.getLsbD_or, blockAddr_getLsbD small (by omega), Bool.false_or,
    ← BitVec.twoPow_eq, BitVec.getLsbD_twoPow]
  have inWord : i < 32 := by omega
  by_cases same : i = controller
  · subst same
    simp [inWord]
  · simp [same, Ne.symm same]

theorem ctrlAddr_replayCtrl {a controller : Nat} (small : a < 2 ^ 28) (two : controller < 2) :
    ReplayDevice.ctrlAddr (replayCtrl a controller) = blockAddr a := by
  unfold ReplayDevice.ctrlAddr replayCtrl
  have destination : ∀ c < 2, (1#32 <<< c) &&& 0x7ffffffc#32 = 0#32 := by decide
  rw [BitVec.and_or_distrib_right, blockAddr_and_mask small, destination controller two,
    BitVec.or_zero]

theorem ctrlSelects_replayCtrl {a controller : Nat} (small : a < 2 ^ 28) (two : controller < 2)
    (other : Nat) :
    ReplayDevice.ctrlSelects (replayCtrl a controller) other = decide (other = controller) := by
  unfold ReplayDevice.ctrlSelects
  by_cases low : other < 2
  · rw [decide_eq_true low, Bool.true_and, replayCtrl_getLsbD small other low]
  · rw [decide_eq_false low, Bool.false_and, decide_eq_false (by omega)]

theorem replayCtrl_writeDone {a controller : Nat} (small : a < 2 ^ 28) (two : controller < 2) :
    replayCtrl a controller &&& 3#32 &&& 1#32 <<< controller ≠ 0#32 := by
  intro none
  have bit := congrArg (fun w => BitVec.getLsbD w controller) none
  have three : ∀ c < 2, (3#32).getLsbD c = true := by decide
  have flag : ∀ c < 2, (1#32 <<< c).getLsbD c = true := by decide
  simp only [BitVec.getLsbD_and, replayCtrl_getLsbD small controller two, three controller two,
    flag controller two, BitVec.getLsbD_zero] at bit
  simp at bit

theorem controllerSelect_lt (channel : Nat) : controllerSelect channel < 2 := by
  unfold controllerSelect
  split <;> decide

/-! ## A block -/

/-- The wait ends once the command is carried out. -/
theorem waitWriteDone_spec {writeDone : Word32} {d : ReplayDevice} {wait timeout : Nat}
    (pending : d.pending = some wait) (acks : wait ≤ timeout)
    (selected : d.ctrl &&& 3#32 &&& writeDone ≠ 0#32) :
    waitWriteDone writeDone timeout d = (.ok (), d.complete) := by
  induction wait generalizing d timeout with
  | zero =>
      unfold waitWriteDone
      simp only [ReplayDevice.getCtrl, pending, if_pos selected]
  | succ wait ih =>
      cases timeout with
      | zero => exact absurd acks (Nat.not_succ_le_zero wait)
      | succ timeout =>
          unfold waitWriteDone
          simp only [ReplayDevice.getCtrl, pending, BitVec.zero_and, ne_eq, not_true_eq_false,
            if_false]
          exact @ih { d with pending := some wait } timeout rfl (Nat.le_of_succ_le_succ acks)
            selected

/-- A block write changes the block it is about, and nothing else. -/
theorem blockToRam_spec {a channel : Nat} {data : List Word32} {mask : Word16} (flags : Word32)
    (stack : Nat → Word32) {d : ReplayDevice} (valid : channel ≤ 11)
    (inData : ∀ i < replayDws, mask.getLsbD i = true → i < data.length) (small : a < 2 ^ 28)
    (acks : d.latency d.issued ≤ sysmonDrTimeout) :
    ∃ d', ddr3DataReplayBlockToRam (blockAddr a) data mask channel flags stack d = (.ok (), d') ∧
      d'.latency = d.latency ∧
      ∀ controller addr, d'.ram controller addr =
        if controller = controllerSelect channel ∧ addr = blockAddr a then
          blockBuffer stack data mask (replayHeader mask flags channel)
        else d.ram controller addr := by
  have two := controllerSelect_lt channel
  have reads : ¬∃ i < replayDws, mask.getLsbD i = true ∧ data.length ≤ i := by
    rintro ⟨i, inBlock, selected, behind⟩
    exact absurd (inData i inBlock selected) (not_lt.mpr behind)
  unfold ddr3DataReplayBlockToRam
  rw [if_neg (not_lt.mpr valid), if_neg reads, blockAddr_and_mask small]
  refine ⟨_, waitWriteDone_spec rfl acks (replayCtrl_writeDone small two), rfl, ?_⟩
  intro controller addr
  show (if ReplayDevice.ctrlSelects (replayCtrl a (controllerSelect channel)) controller &&
      addr == ReplayDevice.ctrlAddr (replayCtrl a (controllerSelect channel)) then _ else _) = _
  rw [ctrlSelects_replayCtrl small two, ctrlAddr_replayCtrl small two]
  simp only [Bool.and_eq_true, decide_eq_true_eq, beq_iff_eq]
  rfl

/-! ## The blocks of an event -/

/-- A block, as it is meant. -/
structure ReplayBlock where
  items : List Word32
  eoe : Bool
  last : Bool
  diuError : Bool

def ReplayBlock.flags (block : ReplayBlock) : Word32 :=
  if block.eoe then endFlags 0 block.last block.diuError else 0

/-- The mask of the first `n` words. -/
def dwMask (n : Nat) : Word16 := (1#16 <<< n) - 1

theorem dwMask_getLsbD : ∀ n ≤ 15, ∀ i < 15, (dwMask n).getLsbD i = decide (i < n) := by
  decide

/-- The words of a block in RAM. -/
structure Encodes (channel : Nat) (block : ReplayBlock) (words : Nat → Word32) : Prop where
  fits : block.items.length ≤ replayDws
  header : words 0 = replayHeader (dwMask block.items.length) block.flags channel
  data : ∀ i (inBlock : i < block.items.length), words (i + 1) = block.items[i]

/-- The blocks stand in RAM from block `a` on. -/
def RamHolds (channel : Nat) (ram : Word32 → Nat → Word32) : Nat → List ReplayBlock → Prop
  | _, [] => True
  | a, block :: rest =>
      Encodes channel block (ram (blockAddr a)) ∧ RamHolds channel ram (a + 1) rest

theorem ramHolds_congr {channel a : Nat} {ram ram' : Word32 → Nat → Word32}
    {blocks : List ReplayBlock} (holds : RamHolds channel ram a blocks)
    (same : ∀ j < blocks.length, ram' (blockAddr (a + j)) = ram (blockAddr (a + j))) :
    RamHolds channel ram' a blocks := by
  induction blocks generalizing a with
  | nil => trivial
  | cons block rest ih =>
      obtain ⟨encodes, later⟩ := holds
      have here : ram' (blockAddr a) = ram (blockAddr a) := same 0 (Nat.succ_pos _)
      refine ⟨here ▸ encodes, ih later ?_⟩
      intro j inRange
      rw [show a + 1 + j = a + (j + 1) by omega]
      exact same (j + 1) (Nat.succ_lt_succ inRange)

theorem ramHolds_append {channel a : Nat} {ram : Word32 → Nat → Word32}
    {first second : List ReplayBlock} (holds : RamHolds channel ram a first)
    (later : RamHolds channel ram (a + first.length) second) :
    RamHolds channel ram a (first ++ second) := by
  induction first generalizing a with
  | nil => exact later
  | cons block rest ih =>
      obtain ⟨encodes, rest'⟩ := holds
      refine ⟨encodes, ih rest' ?_⟩
      rw [List.length_cons] at later
      rw [show a + 1 + rest.length = a + (rest.length + 1) by omega]
      exact later

theorem ramHolds_getElem {channel a : Nat} {ram : Word32 → Nat → Word32}
    {blocks : List ReplayBlock} (holds : RamHolds channel ram a blocks) (j : Nat)
    (inRange : j < blocks.length) : Encodes channel blocks[j] (ram (blockAddr (a + j))) := by
  induction blocks generalizing a j with
  | nil => cases inRange
  | cons block rest ih =>
      obtain ⟨encodes, later⟩ := holds
      cases j with
      | zero => exact encodes
      | succ j =>
          rw [show a + (j + 1) = a + 1 + j by omega]
          exact ih later j (Nat.lt_of_succ_lt_succ inRange)

/-- Only the `n` blocks from block `a` on have been written. -/
structure OnlyBlocks (channel a n : Nat) (d d' : ReplayDevice) : Prop where
  latency : d'.latency = d.latency
  ram : ∀ controller addr,
    (∀ j < n, ¬(controller = controllerSelect channel ∧ addr = blockAddr (a + j))) →
      d'.ram controller addr = d.ram controller addr

theorem OnlyBlocks.trans {channel a n m : Nat} {d d' d'' : ReplayDevice}
    (first : OnlyBlocks channel a n d d') (second : OnlyBlocks channel (a + n) m d' d'') :
    OnlyBlocks channel a (n + m) d d'' where
  latency := second.latency.trans first.latency
  ram := by
    intro controller addr outside
    rw [second.ram, first.ram]
    · intro j inRange
      exact outside j (by omega)
    · intro j inRange
      rw [Nat.add_assoc]
      exact outside (n + j) (by omega)

/-- Blocks written earlier stay. -/
theorem OnlyBlocks.keeps {channel a n b : Nat} {d d' : ReplayDevice} {blocks : List ReplayBlock}
    (only : OnlyBlocks channel b n d d') (before : a + blocks.length ≤ b) (room : b + n ≤ 2 ^ 28)
    (holds : RamHolds channel (d.ram (controllerSelect channel)) a blocks) :
    RamHolds channel (d'.ram (controllerSelect channel)) a blocks := by
  refine ramHolds_congr holds ?_
  intro j inRange
  apply only.ram
  rintro i inN ⟨-, same⟩
  have eq := blockAddr_inj (by omega) (by omega) same
  omega

/-- The blocks `ddr3DataReplayEventToRam` should write. -/
def eventBlocks (lastEvent diuError : Bool) (data : List Word32) : List ReplayBlock :=
  (pieces replayDws data).map fun piece =>
    ⟨piece.items, piece.ends, piece.ends && lastEvent, diuError⟩

/-- A block write stores the block it was meant to. -/
theorem blockToRam_stores {a channel : Nat} {data : List Word32} (block : ReplayBlock)
    (stack : Nat → Word32) {d : ReplayDevice} (valid : channel ≤ 11)
    (fits : block.items.length ≤ replayDws) (start : block.items = data.take block.items.length)
    (small : a < 2 ^ 28) (acks : ∀ n, d.latency n ≤ sysmonDrTimeout) :
    ∃ d', ddr3DataReplayBlockToRam (blockAddr a) data (dwMask block.items.length) channel
        block.flags stack d = (.ok (), d') ∧
      OnlyBlocks channel a 1 d d' ∧
      Encodes channel block (d'.ram (controllerSelect channel) (blockAddr a)) := by
  have inData : block.items.length ≤ data.length := by
    have size := congrArg List.length start
    rw [List.length_take] at size
    omega
  have selects : ∀ i < replayDws, (dwMask block.items.length).getLsbD i = true →
      i < block.items.length := by
    intro i inBlock selected
    rw [dwMask_getLsbD _ fits i inBlock] at selected
    exact of_decide_eq_true selected
  obtain ⟨d', written, latency, ram⟩ := blockToRam_spec block.flags stack valid
    (fun i inBlock selected => lt_of_lt_of_le (selects i inBlock selected) inData) small
    (acks d.issued)
  refine ⟨d', written, ⟨latency, ?_⟩, fits, ?_, ?_⟩
  · intro controller addr outside
    exact (ram controller addr).trans (if_neg (outside 0 Nat.one_pos))
  · rw [ram, if_pos ⟨rfl, rfl⟩]
    rfl
  · intro i inBlock
    have inDws : i < replayDws := lt_of_lt_of_le inBlock fits
    rw [ram, if_pos ⟨rfl, rfl⟩]
    simp only [blockBuffer, dwMask_getLsbD _ fits i inDws, inDws, inBlock, decide_true,
      Bool.and_self, if_true]
    rw [List.getD_eq_getElem _ _ (by omega)]
    simp only [List.getElem_of_eq start inBlock, List.getElem_take]

/-! ## Events -/

theorem eventBlocks_short {lastEvent diuError : Bool} {data : List Word32}
    (short : data.length ≤ replayDws) :
    eventBlocks lastEvent diuError data = [⟨data, true, lastEvent, diuError⟩] := by
  unfold eventBlocks
  rw [pieces_of_le short]
  rfl

theorem eventBlocks_long {lastEvent diuError : Bool} {data : List Word32}
    (long : replayDws < data.length) :
    eventBlocks lastEvent diuError data =
      ⟨data.take replayDws, false, false, diuError⟩ ::
        eventBlocks lastEvent diuError (data.drop replayDws) := by
  unfold eventBlocks
  rw [pieces_of_lt (by decide) long]
  rfl

/-- A turn of the loop writes a block and goes on behind it. -/
theorem replayLoop_turn {channel numDws : Nat} {lastEvent diuError : Bool}
    {stack : Word32 → Nat → Word32} {data : List Word32} {addr : Word32} {d d' : ReplayDevice}
    (more : numDws ≠ 0) {mask : Word16} {flags : Word32}
    (written : ddr3DataReplayBlockToRam addr data
      (if numDws ≤ 15 then (1#16 <<< numDws) - 1 else mask) channel
      (if numDws ≤ 15 then endFlags flags lastEvent diuError else flags) (stack addr) d =
        (.ok (), d')) :
    replayLoop channel lastEvent diuError stack data numDws addr mask flags d =
      replayLoop channel lastEvent diuError stack (data.drop 15)
        (if numDws < 15 then 0 else numDws - 15) (addr + 8)
        (if numDws ≤ 15 then (1#16 <<< numDws) - 1 else mask)
        (if numDws ≤ 15 then endFlags flags lastEvent diuError else flags) d' := by
  rw [replayLoop, if_neg more]
  simp only [written]

theorem replayLoop_done {channel : Nat} {lastEvent diuError : Bool}
    {stack : Word32 → Nat → Word32} {data : List Word32} {addr : Word32} {mask : Word16}
    {flags : Word32} {d : ReplayDevice} :
    replayLoop channel lastEvent diuError stack data 0 addr mask flags d = (.ok addr, d) := by
  rw [replayLoop, if_pos rfl]

/-- Until its last block an event goes out with the full mask and no flags. -/
theorem replayLoop_spec {channel : Nat} (lastEvent diuError : Bool)
    (stack : Word32 → Nat → Word32) {data : List Word32} {a : Nat} {d : ReplayDevice}
    (valid : channel ≤ 11) (nonempty : data ≠ [])
    (room : a + (eventBlocks lastEvent diuError data).length ≤ 2 ^ 28)
    (acks : ∀ n, d.latency n ≤ sysmonDrTimeout) :
    ∃ d', replayLoop channel lastEvent diuError stack data data.length (blockAddr a) 0x7fff 0 d =
        (.ok (blockAddr (a + (eventBlocks lastEvent diuError data).length)), d') ∧
      OnlyBlocks channel a (eventBlocks lastEvent diuError data).length d d' ∧
      RamHolds channel (d'.ram (controllerSelect channel)) a
        (eventBlocks lastEvent diuError data) := by
  induction data using pieces_induction (show 0 < replayDws by decide) generalizing a d with
  | short data less =>
      have some := List.length_pos_iff.mpr nonempty
      have fifteen : data.length ≤ 15 := less
      have none : (if data.length < 15 then 0 else data.length - 15) = 0 := by
        split <;> omega
      rw [eventBlocks_short less] at room ⊢
      obtain ⟨d', written, only, encodes⟩ := blockToRam_stores
        ⟨data, true, lastEvent, diuError⟩ (stack (blockAddr a)) valid less List.take_length.symm
        room acks
      refine ⟨d', ?_, only, encodes, trivial⟩
      rw [replayLoop_turn (by omega) (by rw [if_pos fifteen, if_pos fifteen]; exact written), none,
        replayLoop_done, blockAddr_succ]
      rfl
  | long data more ih =>
      have fifteen : ¬data.length ≤ 15 := not_le.mpr more
      have size : (data.take replayDws).length = 15 := List.length_take_of_le more.le
      have left : (if data.length < 15 then 0 else data.length - 15) =
          (data.drop replayDws).length := by
        rw [if_neg (by omega), List.length_drop]
        rfl
      rw [eventBlocks_long more] at room ⊢
      rw [List.length_cons] at room
      obtain ⟨d', written, only, encodes⟩ := blockToRam_stores
        ⟨data.take replayDws, false, false, diuError⟩ (stack (blockAddr a)) valid size.le
        (show data.take replayDws = data.take (data.take replayDws).length by rw [size]; rfl)
        (show a < 2 ^ 28 by omega) acks
      have nonempty' : data.drop replayDws ≠ [] := by
        rw [ne_eq, List.drop_eq_nil_iff]
        omega
      obtain ⟨d'', loop, only', holds⟩ := ih (a := a + 1) (d := d') nonempty' (by omega)
        (fun n => only.latency ▸ acks n)
      refine ⟨d'', ?_, ?_, ?_, holds⟩
      · simp only [size] at written
        rw [replayLoop_turn (by omega) (by rw [if_neg fifteen, if_neg fifteen]; exact written),
          if_neg fifteen, if_neg fifteen, left, blockAddr_succ]
        refine loop.trans ?_
        rw [List.length_cons, show a + 1 + (eventBlocks lastEvent diuError
          (data.drop replayDws)).length = a + ((eventBlocks lastEvent diuError
          (data.drop replayDws)).length + 1) by omega]
      · rw [List.length_cons, Nat.add_comm _ 1]
        exact only.trans only'
      · -- the later blocks do not touch the first
        have alone : RamHolds channel (d'.ram (controllerSelect channel)) a
            [⟨data.take replayDws, false, false, diuError⟩] := ⟨encodes, trivial⟩
        exact (only'.keeps (Nat.le_refl (a + 1)) (by omega) alone).1

/-! ## Events one after the other -/

/-- Blocks an event of `n` words takes. -/
def blockCount (n : Nat) : Nat := (n + 14) / 15

def replayBlocks (events : List ReplayEvent) : Nat :=
  (events.map fun event => blockCount event.data.length).sum

/-- The addresses the calls return. -/
def expectedAddrs (addr : Word32) : List ReplayEvent → List Word32
  | [] => []
  | event :: rest =>
      let next := addr + BitVec.ofNat 32 (8 * blockCount event.data.length)
      next :: expectedAddrs next rest

/-- All blocks of a series of events. -/
def runBlocks : List ReplayEvent → List ReplayBlock
  | [] => []
  | event :: rest => eventBlocks rest.isEmpty event.diuError event.data ++ runBlocks rest

theorem length_eventBlocks {lastEvent diuError : Bool} {data : List Word32}
    (nonempty : data ≠ []) :
    (eventBlocks lastEvent diuError data).length = blockCount data.length := by
  unfold eventBlocks
  rw [List.length_map, length_pieces (by decide) nonempty]
  rfl

theorem length_runBlocks {events : List ReplayEvent}
    (nonempty : ∀ event ∈ events, event.data ≠ []) :
    (runBlocks events).length = replayBlocks events := by
  induction events with
  | nil => rfl
  | cons event rest ih =>
      unfold runBlocks replayBlocks
      rw [List.length_append, length_eventBlocks (nonempty event List.mem_cons_self),
        ih fun event mem => nonempty event (List.mem_cons_of_mem _ mem)]
      rfl

theorem writeEvents_spec {channel : Nat} (stack : Word32 → Nat → Word32)
    {events : List ReplayEvent} {a : Nat} {d : ReplayDevice} (valid : channel ≤ 11)
    (nonempty : ∀ event ∈ events, event.data ≠ []) (room : a + (runBlocks events).length ≤ 2 ^ 28)
    (acks : ∀ n, d.latency n ≤ sysmonDrTimeout) :
    ∃ d', writeEvents channel stack events (blockAddr a) d =
        (.ok (expectedAddrs (blockAddr a) events), d') ∧
      OnlyBlocks channel a (runBlocks events).length d d' ∧
      RamHolds channel (d'.ram (controllerSelect channel)) a (runBlocks events) := by
  induction events generalizing a d with
  | nil => exact ⟨d, rfl, ⟨rfl, fun _ _ _ => rfl⟩, trivial⟩
  | cons event rest ih =>
      have here := nonempty event List.mem_cons_self
      unfold runBlocks at room ⊢
      rw [List.length_append] at room ⊢
      obtain ⟨d', written, only, holds⟩ := replayLoop_spec rest.isEmpty event.diuError stack
        valid here (show a + (eventBlocks rest.isEmpty event.diuError event.data).length ≤ 2 ^ 28
          by omega) acks
      obtain ⟨d'', later, only', holds'⟩ :=
        ih (fun event mem => nonempty event (List.mem_cons_of_mem _ mem))
          (show a + (eventBlocks rest.isEmpty event.diuError event.data).length +
            (runBlocks rest).length ≤ 2 ^ 28 by omega)
          (fun n => only.latency ▸ acks n)
      refine ⟨d'', ?_, only.trans only', ?_⟩
      · unfold writeEvents ddr3DataReplayEventToRam expectedAddrs
        simp only [written, later]
        rw [length_eventBlocks here, blockAddr_add]
      · exact ramHolds_append (only'.keeps (Nat.le_refl _) (by omega) holds) holds'

end Librorc
