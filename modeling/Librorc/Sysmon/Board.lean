import Librorc.Link.Independence
import Librorc.Sysmon.Ddr3

/-!
# The board's own registers

Below the windows of the links are the registers of the board. `sysmon` sets the
fan, the LEDs and the link mask, the resets of the QSFP and memory modules and
the frequency it remembers there, and clears the error counters. Each control
keeps what it was set to last, whatever `sysmon` and the classes of the links do
in between, and the links do not see `sysmon`.
-/

namespace Librorc

open Librorc.Lib

namespace Reg

def firmwareRevision : Word64 := 0
def firmwareDate : Word64 := 1
def scReqCanceled : Word64 := 5
def qsfpLedCtrl : Word64 := 6
def dmaTxTimeout : Word64 := 10
def illegalReq : Word64 := 14
def multidwread : Word64 := 15
def pcieCtrl : Word64 := 16
def typeChannels : Word64 := 17
def pcieDstBusy : Word64 := 18
def bracketLedCtrl : Word64 := 19
def fanCtrl : Word64 := 20
def pcieTerrDrop : Word64 := 21
def ucSpiCtrl : Word64 := 23
def pcieDstMaxBusy : Word64 := 24
def refclkFreq : Word64 := 25

end Reg

/-- `RORC_CFG_PROJECT_hwtest` -/
def cfgProjectHwtest : Word32 := 4

/-! ## The accessors -/

namespace Sysmon

/-- `m_bar->get32(…)` -/
def word (addr : Word64) (b : Bar) : Word32 := (b.get32 addr).1

def fwRevision : Bar → Word32 := word Reg.firmwareRevision

def fwBuildDate : Bar → Word32 := word Reg.firmwareDate

def firmwareType (b : Bar) : Word16 := ((word Reg.typeChannels b >>> 16) &&& 0xffff).setWidth 16

def pcieNumberOfLanes (b : Bar) : Word32 := 1 <<< ((word Reg.pcieCtrl b >>> 3) &&& 0x3).toNat

def pcieGeneration (b : Bar) : Word32 := 1 <<< ((word Reg.pcieCtrl b >>> 5) &&& 0x01).toNat

def numberOfChannels (b : Bar) : Word32 := word Reg.typeChannels b &&& 0xffff

/-- Only `hwtest` shows the clock. -/
def systemClockIsRunning (b : Bar) : Bool :=
  if word Reg.typeChannels b >>> 16 ≠ cfgProjectHwtest then true
  else (word Reg.ddr3Ctrl b >>> 3) &&& 1 == 1

def systemFanIsEnabled (b : Bar) : Bool := word Reg.fanCtrl b &&& (1#32 <<< 31) != 0

def systemFanIsRunning (b : Bar) : Bool := word Reg.fanCtrl b &&& (1#32 <<< 29) != 0

def systemFanIsAutoMode (b : Bar) : Bool := word Reg.fanCtrl b &&& (1#32 <<< 30) != 0

/-- An override drives `PWM_EN_T` low; without one `enable` is not looked at. -/
def systemFanSetEnable (ovrd enable : Word32) (b : Bar) : Bar :=
  let (fanctrl, b) := b.get32 Reg.fanCtrl
  let fanctrl :=
    if ovrd ≠ 0 then
      ((fanctrl &&& ~~~(1#32 <<< 30)) &&& ~~~(1#32 <<< 31)) ||| ((enable &&& 1) <<< 31)
    else fanctrl ||| (1#32 <<< 30)
  b.set32 Reg.fanCtrl fanctrl

def bracketLedInBlinkMode (b : Bar) : Bool := word Reg.bracketLedCtrl b &&& (1#32 <<< 31) != 0

def setBracketLedMode (mode : Word32) (b : Bar) : Bar :=
  let (ledctrl, b) := b.get32 Reg.bracketLedCtrl
  b.set32 Reg.bracketLedCtrl ((ledctrl &&& ~~~(1#32 <<< 31)) ||| ((mode &&& 1) <<< 31))

def getLinkmask (b : Bar) : Word32 := word Reg.bracketLedCtrl b &&& 0x7fffffff

def setLinkmask (mask : Word32) (b : Bar) : Bar :=
  let (ledctrl, b) := b.get32 Reg.bracketLedCtrl
  b.set32 Reg.bracketLedCtrl ((ledctrl &&& (1#32 <<< 31)) ||| (mask &&& 0x7fffffff))

def dipswitch (b : Bar) : Word32 := (word Reg.ucSpiCtrl b >>> 16) &&& 0xff

/-- A bit of the byte of a cage, inverted. -/
def qsfpFlag (bit : Nat) (index : Word8) (b : Bar) : Bool :=
  ((~~~(word Reg.qsfpLedCtrl b)) >>> (8 * index.toNat + bit)) &&& 0x01 == 1

def qsfpIsPresent : Word8 → Bar → Bool := qsfpFlag 2

def qsfpGetReset : Word8 → Bar → Bool := qsfpFlag 3

def qsfpLEDIsOn (qsfpIndex ledIndex : Word8) : Bar → Bool := qsfpFlag ledIndex.toNat qsfpIndex

/-- `MOD_RST_N` is low in reset. -/
def qsfpSetReset (index reset : Word8) (b : Bar) : Bar :=
  let (qsfpCtrl, b) := b.get32 Reg.qsfpLedCtrl
  let qsfpCtrl :=
    if reset = 0 then qsfpCtrl ||| (1#32 <<< (8 * index.toNat + 3))
    else qsfpCtrl &&& ~~~(1#32 <<< (8 * index.toNat + 3))
  b.set32 Reg.qsfpLedCtrl qsfpCtrl

def ddr3SetReset (controller value : Word32) (b : Bar) : Bar :=
  let ctrl := (controller &&& 1).toNat
  let (ddrctrl, b) := b.get32 Reg.ddr3Ctrl
  let ddrctrl := ddrctrl &&& ~~~(1#32 <<< (16 * ctrl))
  let ddrctrl := ddrctrl ||| ((value &&& 1) <<< (16 * ctrl))
  b.set32 Reg.ddr3Ctrl ddrctrl

def ddr3GetReset (controller : Word32) (b : Bar) : Word32 :=
  let ddrctrl := word Reg.ddr3Ctrl b
  let ctrl := (controller &&& 1).toNat
  (ddrctrl >>> (16 * ctrl)) &&& 1

/-! ### The error counters -/

def pcieRequestCanceledCounter : Bar → Word32 := word Reg.scReqCanceled

def clearPcieRequestCanceledCounter : Bar → Bar := Bar.set32 Reg.scReqCanceled 0

def pcieTxTimeoutCounter : Bar → Word32 := word Reg.dmaTxTimeout

def clearPcieTxTimeoutCounter : Bar → Bar := Bar.set32 Reg.dmaTxTimeout 0

def pcieIllegalRequestCounter : Bar → Word32 := word Reg.illegalReq

def clearPcieIllegalRequestCounter : Bar → Bar := Bar.set32 Reg.illegalReq 0

def pcieMultiDwReadCounter : Bar → Word32 := word Reg.multidwread

def clearPcieMultiDwReadCounter : Bar → Bar := Bar.set32 Reg.multidwread 0

def pcieTxDestinationBusyCounter : Bar → Word32 := word Reg.pcieDstBusy

def clearPcieTxDestinationBusyCounter : Bar → Bar := Bar.set32 Reg.pcieDstBusy 0

def pcieTransmissionErrorCounter : Bar → Word32 := word Reg.pcieTerrDrop

def clearPcieTransmissionErrorCounter : Bar → Bar := Bar.set32 Reg.pcieTerrDrop 0

def clearAllErrorCounters (b : Bar) : Bar :=
  let b := clearPcieRequestCanceledCounter b
  let b := clearPcieTxTimeoutCounter b
  let b := clearPcieIllegalRequestCounter b
  let b := clearPcieMultiDwReadCounter b
  let b := clearPcieTxDestinationBusyCounter b
  clearPcieTransmissionErrorCounter b

def clearMaxPcieDeadtime : Bar → Bar := Bar.set32 Reg.pcieDstMaxBusy 0

def storeRefclkFreq (freq : Word32) : Bar → Bar := Bar.set32 Reg.refclkFreq freq

def refclkFreq : Bar → Word32 := word Reg.refclkFreq

end Sysmon

/-! ## Calls and controls -/

/-- The calls that write to the board's registers. A QSFP index is one of the four
the register has a byte for. -/
inductive BoardOp
  | systemFanSetEnable (ovrd enable : Word32)
  | setBracketLedMode (mode : Word32)
  | setLinkmask (mask : Word32)
  | qsfpSetReset (index : Fin 4) (reset : Word8)
  | ddr3SetReset (controller value : Word32)
  | clearAllErrorCounters
  | clearMaxPcieDeadtime
  | storeRefclkFreq (freq : Word32)

/-- `uint8_t index` -/
def qsfpIndex (i : Fin 4) : Word8 := BitVec.ofNat 8 i

def BoardOp.run : BoardOp → Bar → Bar
  | .systemFanSetEnable ovrd enable => Sysmon.systemFanSetEnable ovrd enable
  | .setBracketLedMode mode => Sysmon.setBracketLedMode mode
  | .setLinkmask mask => Sysmon.setLinkmask mask
  | .qsfpSetReset index reset => Sysmon.qsfpSetReset (qsfpIndex index) reset
  | .ddr3SetReset controller value => Sysmon.ddr3SetReset controller value
  | .clearAllErrorCounters => Sysmon.clearAllErrorCounters
  | .clearMaxPcieDeadtime => Sysmon.clearMaxPcieDeadtime
  | .storeRefclkFreq freq => Sysmon.storeRefclkFreq freq

inductive ErrorCounter
  | requestCanceled
  | txTimeout
  | illegalRequest
  | multiDwRead
  | txDestinationBusy
  | transmissionError
deriving DecidableEq

def ErrorCounter.addr : ErrorCounter → Word64
  | requestCanceled => Reg.scReqCanceled
  | txTimeout => Reg.dmaTxTimeout
  | illegalRequest => Reg.illegalReq
  | multiDwRead => Reg.multidwread
  | txDestinationBusy => Reg.pcieDstBusy
  | transmissionError => Reg.pcieTerrDrop

def ErrorCounter.value : ErrorCounter → Bar → Word32
  | requestCanceled => Sysmon.pcieRequestCanceledCounter
  | txTimeout => Sysmon.pcieTxTimeoutCounter
  | illegalRequest => Sysmon.pcieIllegalRequestCounter
  | multiDwRead => Sysmon.pcieMultiDwReadCounter
  | txDestinationBusy => Sysmon.pcieTxDestinationBusyCounter
  | transmissionError => Sysmon.pcieTransmissionErrorCounter

def ErrorCounter.all : List ErrorCounter :=
  [requestCanceled, txTimeout, illegalRequest, multiDwRead, txDestinationBusy, transmissionError]

/-- What can be set. -/
inductive BoardField
  | fanAuto
  | fanEnable
  | bracketLed
  | linkmask
  | modRstN (index : Fin 4)
  | ddr3Reset (ctrl : Fin 2)
  | counter (c : ErrorCounter)
  | maxDeadtime
  | refclkFreq
deriving DecidableEq

namespace BoardField

def all : List BoardField :=
  [fanAuto, fanEnable, bracketLed, linkmask, maxDeadtime, refclkFreq] ++
    (List.finRange 4).map modRstN ++ (List.finRange 2).map ddr3Reset ++
      ErrorCounter.all.map counter

theorem mem_all (f : BoardField) : f ∈ all := by
  cases f with
  | modRstN i => revert i; decide
  | ddr3Reset i => revert i; decide
  | counter c => cases c <;> decide
  | _ => decide

/-- Register, lowest bit and width. -/
def place : BoardField → RegField Word64
  | fanAuto => ⟨Reg.fanCtrl, 30, 1⟩
  | fanEnable => ⟨Reg.fanCtrl, 31, 1⟩
  | bracketLed => ⟨Reg.bracketLedCtrl, 31, 1⟩
  | linkmask => ⟨Reg.bracketLedCtrl, 0, 31⟩
  | modRstN i => ⟨Reg.qsfpLedCtrl, 8 * i + 3, 1⟩
  | ddr3Reset i => ⟨Reg.ddr3Ctrl, 16 * i, 1⟩
  | counter c => ⟨c.addr, 0, 32⟩
  | maxDeadtime => ⟨Reg.pcieDstMaxBusy, 0, 32⟩
  | refclkFreq => ⟨Reg.refclkFreq, 0, 32⟩

/-- A control as its getter returns it; the largest dead time is scaled there. -/
def read (b : Bar) : BoardField → Word32
  | fanAuto => if Sysmon.systemFanIsAutoMode b then 1 else 0
  | fanEnable => if Sysmon.systemFanIsEnabled b then 1 else 0
  | bracketLed => if Sysmon.bracketLedInBlinkMode b then 1 else 0
  | linkmask => Sysmon.getLinkmask b
  | modRstN i => if Sysmon.qsfpGetReset (qsfpIndex i) b then 0 else 1
  | ddr3Reset i => Sysmon.ddr3GetReset (BitVec.ofNat 32 i) b
  | counter c => c.value b
  | maxDeadtime => Sysmon.word Reg.pcieDstMaxBusy b
  | refclkFreq => Sysmon.refclkFreq b

end BoardField

def boardLayout : RegLayout BoardField Word64 32 where
  place := BoardField.place
  fits f := by
    have all : ∀ f ∈ BoardField.all, f.place.low + f.place.width ≤ 32 := by decide
    exact all f f.mem_all
  apart _ _ := RegLayout.apart_of_pairwise BoardField.mem_all (by decide)

/-- `controller&1`, as `Ddr3` has it. -/
def boardController (controller : Word32) : Fin 2 :=
  ⟨(Ddr3.ofModuleId controller).id, Nat.lt_succ_of_le (Ddr3.ofModuleId controller).id_le⟩

/-- The controls a call sets, with their values. -/
def BoardOp.sets : BoardOp → List (BoardField × Word32)
  | .systemFanSetEnable ovrd enable =>
      if ovrd ≠ 0 then [(.fanAuto, 0), (.fanEnable, enable)] else [(.fanAuto, 1)]
  | .setBracketLedMode mode => [(.bracketLed, mode)]
  | .setLinkmask mask => [(.linkmask, mask)]
  | .qsfpSetReset index reset => [(.modRstN index, if reset = 0 then 1 else 0)]
  | .ddr3SetReset controller value => [(.ddr3Reset (boardController controller), value)]
  | .clearAllErrorCounters => ErrorCounter.all.map fun c => (.counter c, 0)
  | .clearMaxPcieDeadtime => [(.maxDeadtime, 0)]
  | .storeRefclkFreq freq => [(.refclkFreq, freq)]

/-! ## What one call does -/

/-- Read a register, change one control, write it back. -/
theorem update_boardField {f : BoardField} {v : Word32} {change : Word32 → Word32}
    (same : ∀ w, change w = setField w v f.place.low f.place.width) (b : Bar) :
    ((b.get32 f.place.addr).2.set32 f.place.addr (change (b.get32 f.place.addr).1)).words =
      boardLayout.setAll [(f, v)] b.words := by
  rw [RegLayout.setAll_single]
  exact congrArg (Function.update b.words f.place.addr) (same _)

/-- A register that is one control. -/
theorem set32_boardField {f : BoardField} {addr : Word64} (whole : f.place = ⟨addr, 0, 32⟩)
    (data : Word32) (b : Bar) :
    (b.set32 addr data).words = boardLayout.setAll [(f, data)] b.words := by
  have place : boardLayout.place f = ⟨addr, 0, 32⟩ := whole
  rw [RegLayout.setAll_single, place]
  exact congrArg (Function.update b.words addr) (setField_whole _ data).symm

/-- An override sets two bits of one register. -/
theorem Sysmon.systemFanSetEnable_words (ovrd enable : Word32) (b : Bar) :
    (systemFanSetEnable ovrd enable b).words =
      boardLayout.setAll (BoardOp.systemFanSetEnable ovrd enable).sets b.words := by
  unfold systemFanSetEnable BoardOp.sets
  by_cases override : ovrd ≠ 0
  · simp only [if_pos override]
    -- both bits are in the word that is written, the automatic mode first
    have drive (w : Word32) : w &&& ~~~(1#32 <<< 30) = setField w 0 30 1 :=
      and_not_eq_setField w 30 1
    rw [RegLayout.setAll_cons, RegLayout.setAll_single, RegField.set, drive]
    -- the second field is set in what the first has left
    show _ = Function.update (Function.update b.words Reg.fanCtrl (setField _ 0 30 1)) Reg.fanCtrl
      (setField (Function.update b.words Reg.fanCtrl (setField _ 0 30 1) Reg.fanCtrl) enable 31 1)
    rw [Function.update_self, Function.update_idem]
    rfl
  · simp only [if_neg override]
    exact update_boardField (f := .fanAuto) (fun w => or_eq_setField w 30 1) b

theorem linkmask_eq (mask w : Word32) :
    (w &&& (1#32 <<< 31)) ||| (mask &&& 0x7fffffff) = setField w mask 0 31 := by
  -- the mask of the LED mode is the complement of the link mask's
  have kept : 1#32 <<< 31 = ~~~(BitVec.ofNat 32 (2 ^ 31 - 1) <<< 0) := by decide
  rw [setField, kept, BitVec.shiftLeft_zero (mask &&& _)]
  rfl

theorem modRstN_eq (reset : Word8) (bit : Nat) (w : Word32) :
    (if reset = 0 then w ||| (1#32 <<< bit) else w &&& ~~~(1#32 <<< bit)) =
      setField w (if reset = 0 then 1 else 0) bit 1 := by
  by_cases release : reset = 0
  · rw [if_pos release, if_pos release]
    exact or_eq_setField w bit 1
  · rw [if_neg release, if_neg release]
    exact and_not_eq_setField w bit 1

theorem qsfpIndex_toNat (i : Fin 4) : (qsfpIndex i).toNat = i := by
  revert i
  decide

theorem Sysmon.clearAllErrorCounters_words (b : Bar) :
    (clearAllErrorCounters b).words =
      boardLayout.setAll BoardOp.clearAllErrorCounters.sets b.words := by
  have loop : clearAllErrorCounters b =
      ErrorCounter.all.foldl (fun b c => b.set32 c.addr 0) b := rfl
  have clear (b : Bar) (c : ErrorCounter) := set32_boardField (f := .counter c) rfl 0 b
  rw [loop]
  exact boardLayout.foldl_words Bar.words (fun _ => True) (fun b c _ => ⟨clear b c, trivial⟩)
    trivial ErrorCounter.all

/-- Every call sets its controls, and nothing else. -/
theorem BoardOp.run_words (op : BoardOp) (b : Bar) :
    (op.run b).words = boardLayout.setAll op.sets b.words := by
  cases op with
  | systemFanSetEnable ovrd enable => exact Sysmon.systemFanSetEnable_words ovrd enable b
  | setBracketLedMode mode => exact update_boardField (f := .bracketLed) (fun _ => rfl) b
  | setLinkmask mask => exact update_boardField (f := .linkmask) (linkmask_eq mask) b
  | qsfpSetReset index reset =>
      have bit := modRstN_eq reset (8 * (qsfpIndex index).toNat + 3)
      have place : (8 * (qsfpIndex index).toNat + 3) = (BoardField.modRstN index).place.low :=
        congrArg (8 * · + 3) (qsfpIndex_toNat index)
      exact update_boardField (f := .modRstN index) (fun w => (bit w).trans (by rw [place]; rfl)) b
  | ddr3SetReset controller value =>
      exact update_boardField (f := .ddr3Reset (boardController controller)) (fun _ => rfl) b
  | clearAllErrorCounters => exact Sysmon.clearAllErrorCounters_words b
  | clearMaxPcieDeadtime => exact set32_boardField (f := .maxDeadtime) rfl 0 b
  | storeRefclkFreq freq => exact set32_boardField (f := .refclkFreq) rfl freq b

/-! ## What the getters return -/

theorem qsfpFlag_eq (bit : Nat) (index : Word8) (b : Bar) :
    Sysmon.qsfpFlag bit index b =
      (decide (8 * index.toNat + bit < 32) &&
        !(b.words Reg.qsfpLedCtrl).getLsbD (8 * index.toNat + bit)) := by
  -- the flag is shown when its bit is clear
  have field (w : Word32) (k : Nat) : ((w >>> k) &&& 0x01 == 1) = w.getLsbD k := by
    have value := getField_one_eq_ite w k
    show (getField w k 1 == 1) = _
    rw [value]
    cases w.getLsbD k <;> rfl
  exact (field _ _).trans (BitVec.getLsbD_not ..)

/-- Each getter reads its control. -/
theorem BoardField.read_eq (b : Bar) (f : BoardField) :
    f.read b = (boardLayout.place f).get b.words := by
  cases f with
  | fanAuto => exact bool_and_bit _ (by decide)
  | fanEnable => exact bool_and_bit _ (by decide)
  | bracketLed => exact bool_and_bit _ (by decide)
  | linkmask => exact congrArg (· &&& 0x7fffffff) (BitVec.ushiftRight_zero _).symm
  | modRstN i =>
      -- `MOD_RST_N` is low while the module is in reset
      refine Eq.trans ?_ (getField_one_eq_ite (b.words Reg.qsfpLedCtrl) (8 * i + 3)).symm
      show (if Sysmon.qsfpFlag 3 (qsfpIndex i) b then 0 else 1 : Word32) = _
      rw [qsfpFlag_eq, qsfpIndex_toNat, decide_eq_true (by omega), Bool.true_and]
      cases (b.words Reg.qsfpLedCtrl).getLsbD (8 * i + 3) <;> rfl
  | ddr3Reset i =>
      have number : (BitVec.ofNat 32 i &&& 1).toNat = i := by
        revert i
        decide
      show (b.words Reg.ddr3Ctrl >>> (16 * (BitVec.ofNat 32 i &&& 1).toNat)) &&& 1 = _
      rw [number]
      rfl
  | counter c =>
      cases c <;> exact (getField_whole _).symm
  | maxDeadtime => exact (getField_whole _).symm
  | refclkFreq => exact (getField_whole _).symm

/-! ## Calls of the board and of its links -/

/-- A call of `sysmon`, or of one of the links on the BAR. -/
inductive BoardCall
  | control (op : BoardOp)
  | read (f : BoardField)
  | link (l : Link) (c : LinkCall)

namespace BoardCall

def run : BoardCall → Bar → List Int × Bar
  | control op, b => ([], op.run b)
  | read f, b => ([(f.read b).toNat], b)
  | link l c, b => c.run l b

/-- The link a call is for; `none` is the board. -/
def owner : BoardCall → Option Link
  | control _ | read _ => none
  | link l _ => some l

/-- The number of the link has a window above the board's registers. -/
def Valid : BoardCall → Prop
  | control _ | read _ => True
  | link l c => l.linkNumber.toNat + 1 < 2 ^ 17 ∧ c.InFile

instance : (c : BoardCall) → Decidable c.Valid
  | control _ | read _ => isTrue trivial
  | link _ _ => inferInstanceAs (Decidable (_ ∧ _))

end BoardCall

/-- The calls that set a control. -/
def boardOps (calls : List BoardCall) : List BoardOp :=
  calls.filterMap fun c => match c with
    | .control op => some op
    | _ => none

/-- Runs calls of the board and of the links in their order. -/
def runBoard (calls : List BoardCall) (b : Bar) : List (BoardCall × List Int) × Bar :=
  runAll BoardCall.run calls b

def boardWindow : Option Link → Set Word64
  | none => {a | a.toNat < 0x8000}
  | some l => l.window

/-- The window of a link starts above the board's registers. -/
theorem notMem_window {l : Link} (small : l.linkNumber.toNat + 1 < 2 ^ 17) {a : Word64}
    (low : a.toNat < 0x8000) : a ∉ l.window := by
  have value : l.base.toNat = (l.linkNumber.toNat + 1) % 2 ^ 32 * 0x8000 % 2 ^ 32 := by
    rw [Link.base, BitVec.toNat_mul, BitVec.toNat_add]
    rfl
  rintro ⟨above, -⟩
  omega

theorem BoardField.addr_lt (f : BoardField) : f.place.addr.toNat < 0x8000 := by
  have all : ∀ f ∈ BoardField.all, f.place.addr.toNat < 0x8000 := by decide
  exact all f f.mem_all

theorem BoardCall.confined {c : BoardCall} (valid : c.Valid) :
    Confined Bar.words (boardWindow c.owner) c.run := by
  cases c with
  | control op =>
      exact .of_setAll op.run_words BoardField.addr_lt (fun _ _ _ => rfl) fun _ _ _ => rfl
  | read f =>
      refine .of_read (fun _ => rfl) ?_
      intro b b' agree
      have same : f.read b = f.read b' := by
        rw [f.read_eq, f.read_eq]
        exact congrArg (fun w => getField w _ _) (agree _ f.addr_lt)
      exact congrArg (fun w : Word32 => [(w.toNat : Int)]) same
  | link l c => exact LinkCall.confined l valid.2

/-- A call for another one is made outside the window. -/
theorem boardWindow_apart {c : BoardCall} (valid : c.Valid) {o : Option Link}
    (small : ∀ l ∈ o, l.linkNumber.toNat + 1 < 2 ^ 17) (other : c.owner ≠ o) :
    ∀ a ∈ boardWindow o, a ∉ boardWindow c.owner := by
  intro a here there
  cases c with
  | control op | read f =>
      cases o with
      | none => exact other rfl
      | some l => exact notMem_window (small l rfl) there here
  | link l c =>
      cases o with
      | none => exact notMem_window valid.1 here there
      | some l' =>
          have ne : l ≠ l' := fun same => other (congrArg some same)
          have below := small l' rfl
          exact Link.window_disjoint (Nat.lt_of_succ_lt valid.1) (Nat.lt_of_succ_lt below) ne a
            here there

/-- The board, or a link, has what its own calls give it. -/
theorem runBoard_own {calls : List BoardCall} (valid : ∀ c ∈ calls, c.Valid) {o : Option Link}
    (small : ∀ l ∈ o, l.linkNumber.toNat + 1 < 2 ^ 17) (b : Bar) :
    ((runBoard calls b).1.filter fun r => r.1.owner = o) =
        (runBoard (calls.filter fun c => c.owner = o) b).1 ∧
      AgreeOn Bar.words (boardWindow o) (runBoard calls b).2
        (runBoard (calls.filter fun c => c.owner = o) b).2 :=
  runAll_own (fun c member => BoardCall.confined (valid c member))
    (fun c member other => boardWindow_apart (valid c member) small other) fun _ _ => rfl

/-- The board's own calls. -/
theorem runBoard_words (calls : List BoardCall) (b : Bar) :
    (runBoard (calls.filter fun c => c.owner = none) b).2.words =
      boardLayout.setAll ((boardOps calls).flatMap BoardOp.sets) b.words := by
  induction calls generalizing b with
  | nil => rfl
  | cons c rest ih =>
      cases c with
      | control op =>
          have set := ih (op.run b)
          rw [op.run_words, ← RegLayout.setAll_append] at set
          exact set
      | read f => exact ih b
      | link l c => exact ih b

/-- What the board shows and nothing sets: the firmware, the PCIe link, the
switches, the fan, and the presence and LEDs of the QSFP modules. -/
def boardStatus : List (Bar → Nat) :=
  [fun b => (Sysmon.fwRevision b).toNat, fun b => (Sysmon.fwBuildDate b).toNat,
    fun b => (Sysmon.firmwareType b).toNat, fun b => (Sysmon.pcieNumberOfLanes b).toNat,
    fun b => (Sysmon.pcieGeneration b).toNat, fun b => (Sysmon.numberOfChannels b).toNat,
    fun b => (Sysmon.dipswitch b).toNat, fun b => (Sysmon.systemClockIsRunning b).toNat,
    fun b => (Sysmon.systemFanIsRunning b).toNat] ++
  (List.finRange 4).flatMap fun i =>
    [fun b => (Sysmon.qsfpIsPresent (qsfpIndex i) b).toNat,
      fun b => (Sysmon.qsfpLEDIsOn (qsfpIndex i) 0 b).toNat,
      fun b => (Sysmon.qsfpLEDIsOn (qsfpIndex i) 1 b).toNat]

/-- Between `b` and `b'` each control got the value the calls gave it last, and
nothing else of the board changed. -/
structure BoardReadsBack (calls : List BoardCall) (b b' : Bar) : Prop where
  controls : ∀ f : BoardField, f.read b' =
    (lastValue f ((boardOps calls).flatMap BoardOp.sets)).elim (f.read b) fun v =>
      getField v 0 f.place.width
  status : ∀ shown ∈ boardStatus, shown b' = shown b
  others : ∀ (a : Word64) i, a.toNat < 0x8000 → boardLayout.Free a i →
    (b'.words a).getLsbD i = (b.words a).getLsbD i

/-- Registers in which nothing is set. -/
def shownWords : List Word64 :=
  [Reg.firmwareRevision, Reg.firmwareDate, Reg.pcieCtrl, Reg.typeChannels, Reg.ucSpiCtrl]

/-- Bits between the controls. -/
def shownBits : List (Word64 × Nat) :=
  [(Reg.ddr3Ctrl, 3), (Reg.fanCtrl, 29)] ++ [0, 1, 2, 8, 9, 10, 16, 17, 18, 24, 25, 26].map
    fun bit => (Reg.qsfpLedCtrl, bit)

theorem free_word {a : Word64} (shown : a ∈ shownWords) (i : Nat) : boardLayout.Free a i := by
  have none : ∀ f ∈ BoardField.all, f.place.addr ∉ shownWords := by decide
  exact fun f covers => none f f.mem_all (covers.1 ▸ shown)

theorem free_bit {a : Word64} {i : Nat} (shown : (a, i) ∈ shownBits) :
    boardLayout.Free a i := by
  have none : ∀ bit ∈ shownBits, ∀ f ∈ BoardField.all, ¬f.place.Covers bit.1 bit.2 := by
    decide
  exact fun f => none (a, i) shown f f.mem_all

theorem shown_lt :
    (∀ bit ∈ shownWords.map fun a => (a, 0), bit.1.toNat < 0x8000) ∧
      ∀ bit ∈ shownBits, bit.1.toNat < 0x8000 := by
  decide

/-- What is shown depends on those alone. -/
theorem boardStatus_eq {b b' : Bar} (words : ∀ a ∈ shownWords, b'.words a = b.words a)
    (bits : ∀ bit ∈ shownBits, (b'.words bit.1).getLsbD bit.2 = (b.words bit.1).getLsbD bit.2) :
    ∀ shown ∈ boardStatus, shown b' = shown b := by
  have same {a : Word64} (shown : a ∈ shownWords) : Sysmon.word a b' = Sysmon.word a b :=
    words a shown
  have types := same (a := Reg.typeChannels) (by decide)
  have pcie := same (a := Reg.pcieCtrl) (by decide)
  -- which bit is looked at depends on the firmware type, which is kept too
  have clock : Sysmon.systemClockIsRunning b' = Sysmon.systemClockIsRunning b := by
    have bit := (flag_eq_of_bit (bits (Reg.ddr3Ctrl, 3) (by decide))).2
    unfold Sysmon.systemClockIsRunning
    rw [types]
    exact congrArg (fun w : Word32 => if Sysmon.word Reg.typeChannels b >>> 16 ≠ cfgProjectHwtest
      then true else w == 1) bit
  have running : Sysmon.systemFanIsRunning b' = Sysmon.systemFanIsRunning b :=
    congrArg (· != 0) (flag_eq_of_bit (bits (Reg.fanCtrl, 29) (by decide))).1
  have cage (i : Fin 4) (bit : Nat) (small : bit < 3) :
      Sysmon.qsfpFlag bit (qsfpIndex i) b' = Sysmon.qsfpFlag bit (qsfpIndex i) b := by
    have listed : ∀ i : Fin 4, ∀ bit < 3, (Reg.qsfpLedCtrl, 8 * i.val + bit) ∈ shownBits := by
      decide
    rw [qsfpFlag_eq, qsfpFlag_eq, qsfpIndex_toNat, bits _ (listed i bit small)]
  intro shown member
  rcases List.mem_append.mp member with plain | cages
  · simp only [List.mem_cons, List.not_mem_nil, or_false] at plain
    rcases plain with rfl | rfl | rfl | rfl | rfl | rfl | rfl | rfl | rfl
    · exact congrArg BitVec.toNat (same (by decide))
    · exact congrArg BitVec.toNat (same (by decide))
    · simp only [Sysmon.firmwareType, types]
    · simp only [Sysmon.pcieNumberOfLanes, pcie]
    · simp only [Sysmon.pcieGeneration, pcie]
    · simp only [Sysmon.numberOfChannels, types]
    · simp only [Sysmon.dipswitch, same (a := Reg.ucSpiCtrl) (by decide)]
    · exact congrArg Bool.toNat clock
    · exact congrArg Bool.toNat running
  · obtain ⟨i, -, member⟩ := List.mem_flatMap.mp cages
    simp only [List.mem_cons, List.not_mem_nil, or_false] at member
    rcases member with rfl | rfl | rfl
    · exact congrArg Bool.toNat (cage i 2 (by omega))
    · exact congrArg Bool.toNat (cage i 0 (by omega))
    · exact congrArg Bool.toNat (cage i 1 (by omega))

end Librorc
