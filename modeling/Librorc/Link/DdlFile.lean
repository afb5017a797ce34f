import Librorc.Link.FastClusterFinder

/-!
# The DDL file of a link

Eight classes write to it. Beside DDL_CTRL and the registers of the cluster
finder it holds the controls of `datareplaychannel` and `eventfilter`, and two
registers of the pattern generator. A setting is read back as its class set it
last, whatever the others have done since; the one register two classes share is
the number of events, which `configureMode` and `setEventLimit` both write.
-/

namespace Librorc

open Librorc.Lib

namespace Reg

def ddlFilterCtrl : Word32 := 24
def ddr3DataReplayChannelCtrl : Word32 := 26
def ddr3DataReplayChannelSts : Word32 := 27

end Reg

/-! ## The accessors -/

namespace Link

variable (l : Link)

def channelIsActive (b : Bar) : Bool := (l.ddlReg Reg.ddlCtrl b).1 &&& (1#32 <<< 3) != 0

def flowControlIsEnabled (b : Bar) : Bool := (l.ddlReg Reg.ddlCtrl b).1 &&& (1#32 <<< 1) != 0

def patternGeneratorAvailable (b : Bar) : Bool := (l.ddlReg Reg.ddlCtrl b).1 &&& (1#32 <<< 15) != 0

def ddr3DataReplayAvailable (b : Bar) : Bool := (l.ddlReg Reg.ddlCtrl b).1 &&& (1#32 <<< 24) != 0

def fastClusterFinderAvailable (b : Bar) : Bool :=
  (l.ddlReg Reg.ddlCtrl b).1 &&& (1#32 <<< 25) != 0

def getDataSourceMux (b : Bar) : Word32 := ((l.ddlReg Reg.ddlCtrl b).1 >>> 16) &&& 3

end Link

namespace Ddl

def getReset (l : Link) (b : Bar) : Word32 := (l.ddlReg Reg.ddlCtrl b).1 >>> 31

def getEnable (l : Link) (b : Bar) : Word32 := (l.ddlReg Reg.ddlCtrl b).1 &&& 1

end Ddl

namespace Diu

def linkUp (l : Link) (b : Bar) : Bool := (l.ddlReg Reg.ddlCtrl b).1 &&& (1#32 <<< 5) != 0

/-- `siu::linkFull` is the same. -/
def linkFull (l : Link) (b : Bar) : Bool := ((l.ddlReg Reg.ddlCtrl b).1 >>> 4) &&& 1 != 1

def getForcedXoff (l : Link) (b : Bar) : Word32 := ((l.ddlReg Reg.ddlCtrl b).1 >>> 6) &&& 1

end Diu

namespace Siu

/-- "Same bit as DIU LD_N". -/
def linkOpen (l : Link) (b : Bar) : Bool := ((l.ddlReg Reg.ddlCtrl b).1 >>> 5) &&& 1 != 0

def isInterfaceFifoEmpty (l : Link) (b : Bar) : Bool :=
  ((l.ddlReg Reg.ddlCtrl b).1 >>> 29) &&& 1 == 1

def isInterfaceFifoFull (l : Link) (b : Bar) : Bool :=
  ((l.ddlReg Reg.ddlCtrl b).1 >>> 28) &&& 1 == 1

def isSourceEmpty (l : Link) (b : Bar) : Bool := ((l.ddlReg Reg.ddlCtrl b).1 >>> 30) &&& 1 == 1

end Siu

namespace Datareplaychannel

variable (l : Link)

def isDone (b : Bar) : Bool := (l.ddlReg Reg.ddr3DataReplayChannelSts b).1 &&& (1#32 <<< 0) != 0

def isWaiting (b : Bar) : Bool := (l.ddlReg Reg.ddr3DataReplayChannelSts b).1 &&& (1#32 <<< 1) != 0

/-- A bit of the control register. -/
def ctrlBit (bit : Nat) (b : Bar) : Bool :=
  (l.ddlReg Reg.ddr3DataReplayChannelCtrl b).1 &&& (1#32 <<< bit) != 0

def isOneshotEnabled : Bar → Bool := ctrlBit l 2

def isContinuousEnabled : Bar → Bool := ctrlBit l 1

def isEnabled : Bar → Bool := ctrlBit l 0

def isInReset : Bar → Bool := ctrlBit l 31

def setEnable (enable : Word32) : Bar → Bar :=
  l.updateDdlReg Reg.ddr3DataReplayChannelCtrl (Link.putBit 0 enable)

def setReset (reset : Word32) : Bar → Bar :=
  l.updateDdlReg Reg.ddr3DataReplayChannelCtrl (Link.putBit 31 reset)

def setModeOneshot (oneshot : Word32) : Bar → Bar :=
  l.updateDdlReg Reg.ddr3DataReplayChannelCtrl (Link.putBit 2 oneshot)

def setModeContinuous (continuous : Word32) : Bar → Bar :=
  l.updateDdlReg Reg.ddr3DataReplayChannelCtrl (Link.putBit 1 continuous)

def nextAddress (b : Bar) : Word32 := (l.ddlReg Reg.ddr3DataReplayChannelSts b).1 &&& 0x7ffffff8

def startAddress (b : Bar) : Word32 := (l.ddlReg Reg.ddr3DataReplayChannelCtrl b).1 &&& 0x7ffffff8

/-- Bits 30 to 3. -/
def setStartAddress (startAddress : Word32) : Bar → Bar :=
  l.updateDdlReg Reg.ddr3DataReplayChannelCtrl fun chCfg =>
    (chCfg &&& ~~~0x7ffffff8#32) ||| (startAddress &&& 0x7ffffff8#32)

def setEventLimit (eventLimit : Word32) : Bar → Bar := l.setDdlReg Reg.ddlPgNumEvents eventLimit

def eventLimit (b : Bar) : Word32 := (l.ddlReg Reg.ddlPgNumEvents b).1

end Datareplaychannel

namespace Eventfilter

variable (l : Link)

def setFilterAll (filterAll : Bool) : Bar → Bar :=
  l.updateDdlReg Reg.ddlFilterCtrl fun filterctrl =>
    if filterAll then filterctrl ||| (1#32 <<< 31) else filterctrl &&& ~~~(1#32 <<< 31)

def getFilterAll (b : Bar) : Bool := ((l.ddlReg Reg.ddlFilterCtrl b).1 >>> 31) &&& 1 != 0

def setFilterMask (mask : Word32) : Bar → Bar :=
  l.updateDdlReg Reg.ddlFilterCtrl fun filterctrl =>
    (filterctrl &&& 0xff000000#32) ||| (mask &&& 0x00ffffff#32)

def getFilterMask (b : Bar) : Word32 := (l.ddlReg Reg.ddlFilterCtrl b).1 &&& 0x00ffffff

end Eventfilter

/-! ## Calls and fields -/

/-- The calls that write a setting. -/
inductive DdlOp
  | link (op : LinkOp)
  | fcf (op : FcfOp)
  | setReplayEnable (enable : Word32)
  | setReplayReset (reset : Word32)
  | setReplayModeOneshot (oneshot : Word32)
  | setReplayModeContinuous (continuous : Word32)
  | setReplayStartAddress (startAddress : Word32)
  | setReplayEventLimit (eventLimit : Word32)
  | setFilterAll (filterAll : Bool)
  | setFilterMask (mask : Word32)

namespace DdlOp

def run (l : Link) : DdlOp → Bar → Bar
  | .link op => op.run l
  | .fcf op => FastClusterFinder.run l op
  | .setReplayEnable enable => Datareplaychannel.setEnable l enable
  | .setReplayReset reset => Datareplaychannel.setReset l reset
  | .setReplayModeOneshot oneshot => Datareplaychannel.setModeOneshot l oneshot
  | .setReplayModeContinuous continuous => Datareplaychannel.setModeContinuous l continuous
  | .setReplayStartAddress startAddress => Datareplaychannel.setStartAddress l startAddress
  | .setReplayEventLimit eventLimit => Datareplaychannel.setEventLimit l eventLimit
  | .setFilterAll filterAll => Eventfilter.setFilterAll l filterAll
  | .setFilterMask mask => Eventfilter.setFilterMask l mask

/-- A sequence of calls. -/
def runOps (l : Link) (ops : List DdlOp) (b : Bar) : Bar := ops.foldl (fun b op => op.run l b) b

end DdlOp

/-- The settings in the file. -/
inductive DdlField
  | ctrl (f : CtrlField)
  | fcf (f : FcfField)
  | eventLength
  | numEvents
  | filterMask
  | filterAll
  | replayEnable
  | replayContinuous
  | replayOneshot
  | replayStartAddress
  | replayReset
deriving DecidableEq

namespace DdlField

def ctrlFields : List CtrlField :=
  [.enable, .flowControl, .counters, .active, .xoff, .pgEnable, .eventIdReset, .pgContinuous,
    .pgMode, .prbs, .dataSource, .reset]

def all : List DdlField :=
  ctrlFields.map ctrl ++ FcfField.all.map fcf ++
    [eventLength, numEvents, filterMask, filterAll, replayEnable, replayContinuous, replayOneshot,
      replayStartAddress, replayReset]

theorem mem_all (f : DdlField) : f ∈ all := by
  cases f with
  | ctrl f => cases f <;> decide
  | fcf f => exact List.mem_append_left _ (List.mem_append_right _ (List.mem_map_of_mem f.mem_all))
  | _ => decide

/-- Register, lowest bit and width. -/
def place : DdlField → RegField Word32
  | .ctrl f => ⟨Reg.ddlCtrl, f.place.1, f.place.2⟩
  | .fcf f => f.place
  | .eventLength => ⟨Reg.ddlPgEventLength, 0, 32⟩
  | .numEvents => ⟨Reg.ddlPgNumEvents, 0, 32⟩
  | .filterMask => ⟨Reg.ddlFilterCtrl, 0, 24⟩
  | .filterAll => ⟨Reg.ddlFilterCtrl, 31, 1⟩
  | .replayEnable => ⟨Reg.ddr3DataReplayChannelCtrl, 0, 1⟩
  | .replayContinuous => ⟨Reg.ddr3DataReplayChannelCtrl, 1, 1⟩
  | .replayOneshot => ⟨Reg.ddr3DataReplayChannelCtrl, 2, 1⟩
  | .replayStartAddress => ⟨Reg.ddr3DataReplayChannelCtrl, 3, 28⟩
  | .replayReset => ⟨Reg.ddr3DataReplayChannelCtrl, 31, 1⟩

end DdlField

def ddlLayout : RegLayout DdlField Word32 32 where
  place := DdlField.place
  fits f := by
    cases f with
    | ctrl f => cases f <;> decide
    | fcf f => exact fcfLayout.fits f
    | _ => decide
  apart _ _ := RegLayout.apart_of_pairwise DdlField.mem_all (by decide)

/-- What a call writes to the two registers of the pattern generator. -/
def LinkOp.pgRegisters : LinkOp → List (DdlField × Word32)
  | .setStaticEventSize eventSize => [(.eventLength, eventSize)]
  | .setPrbsSize prbsMinSize prbsMaxSizeMask =>
      [(.eventLength, (prbsMaxSizeMask &&& 0xffff0000) ||| prbsMinSize.setWidth 32)]
  | .configureMode _ _ numberOfEvents =>
      if numberOfEvents = 0 then [] else [(.numEvents, numberOfEvents)]
  | _ => []

/-- The settings a call writes, with their values. -/
def DdlOp.sets : DdlOp → List (DdlField × Word32)
  | .link op => op.pgRegisters ++ op.gives.map fun e => (.ctrl e.1, e.2)
  | .fcf op => (FastClusterFinder.does op).map fun e => (.fcf e.1, e.2)
  | .setReplayEnable enable => [(.replayEnable, enable)]
  | .setReplayReset reset => [(.replayReset, reset)]
  | .setReplayModeOneshot oneshot => [(.replayOneshot, oneshot)]
  | .setReplayModeContinuous continuous => [(.replayContinuous, continuous)]
  | .setReplayStartAddress startAddress => [(.replayStartAddress, startAddress >>> 3)]
  | .setReplayEventLimit eventLimit => [(.numEvents, eventLimit)]
  | .setFilterAll filterAll => [(.filterAll, if filterAll then 1 else 0)]
  | .setFilterMask mask => [(.filterMask, mask)]

/-- A setting as its getter returns it, or as it is in the register where there is
no getter. -/
def DdlField.read (l : Link) (b : Bar) : DdlField → Word32
  | .ctrl .enable => Ddl.getEnable l b
  | .ctrl .flowControl => if l.flowControlIsEnabled b then 1 else 0
  | .ctrl .active => if l.channelIsActive b then 1 else 0
  | .ctrl .xoff => Diu.getForcedXoff l b
  | .ctrl .dataSource => l.getDataSourceMux b
  | .ctrl .reset => Ddl.getReset l b
  | .ctrl f => ddlCtrlLayout.get f (b.words (l.ddlAddr Reg.ddlCtrl))
  | .fcf f => FastClusterFinder.read l b f
  | .eventLength => b.words (l.ddlAddr Reg.ddlPgEventLength)
  | .numEvents => Datareplaychannel.eventLimit l b
  | .filterMask => Eventfilter.getFilterMask l b
  | .filterAll => if Eventfilter.getFilterAll l b then 1 else 0
  | .replayEnable => if Datareplaychannel.isEnabled l b then 1 else 0
  | .replayContinuous => if Datareplaychannel.isContinuousEnabled l b then 1 else 0
  | .replayOneshot => if Datareplaychannel.isOneshotEnabled l b then 1 else 0
  | .replayStartAddress => Datareplaychannel.startAddress l b >>> 3
  | .replayReset => if Datareplaychannel.isInReset l b then 1 else 0

/-- The flags of DDL_CTRL the device sets, and what the link offers. -/
def ddlFlags (l : Link) : List (Bar → Bool) :=
  [Diu.linkUp l, Diu.linkFull l, Siu.linkOpen l, Siu.isInterfaceFifoEmpty l,
    Siu.isInterfaceFifoFull l, Siu.isSourceEmpty l, l.patternGeneratorAvailable,
    l.ddr3DataReplayAvailable, l.fastClusterFinderAvailable]

/-! ## What one call does -/

/-- The fields on the whole BAR. -/
def ddlBar (l : Link) : RegLayout DdlField Word64 32 :=
  ddlLayout.mapAddr l.ddlAddr (FastClusterFinder.ddlAddr_injective l)

variable (l : Link)

/-- The fields of the cluster finder are among them. -/
theorem setAll_fcf (given : List (FcfField × Word32)) (regs : Word64 → Word32) :
    (ddlBar l).setAll (given.map fun e => (.fcf e.1, e.2)) regs =
      (FastClusterFinder.barLayout l).setAll given regs := by
  induction given generalizing regs with
  | nil => rfl
  | cons e rest ih => exact ih _

/-- So are those of DDL_CTRL, in one register. -/
theorem setAll_ctrl (given : List (CtrlField × Word32)) (regs : Word64 → Word32) :
    (ddlBar l).setAll (given.map fun e => (.ctrl e.1, e.2)) regs =
      Function.update regs (l.ddlAddr Reg.ddlCtrl)
        (ddlCtrlLayout.setAll given (regs (l.ddlAddr Reg.ddlCtrl))) := by
  induction given generalizing regs with
  | nil => exact (Function.update_eq_self _ _).symm
  | cons e rest ih =>
      rw [List.map_cons, RegLayout.setAll_cons, ih]
      have place : (ddlBar l).place (.ctrl e.1) =
          ⟨l.ddlAddr Reg.ddlCtrl, e.1.place.1, e.1.place.2⟩ := rfl
      rw [place, RegField.set, Function.update_self, Function.update_idem]
      rfl

theorem setDdlReg_ctrl (given : List (CtrlField × Word32)) {data : Word32} {b : Bar}
    (value : data = ddlCtrlLayout.setAll given (b.words (l.ddlAddr Reg.ddlCtrl))) :
    (l.setDdlReg Reg.ddlCtrl data b).words =
      (ddlBar l).setAll (given.map fun e => (.ctrl e.1, e.2)) b.words := by
  rw [setAll_ctrl, Link.setDdlReg_words, value]

theorem updateDdlCtrl_words (given : List (CtrlField × Word32)) {change : Word32 → Word32}
    (same : ∀ w, change w = ddlCtrlLayout.setAll given w) (b : Bar) :
    (l.updateDdlCtrl change b).words =
      (ddlBar l).setAll (given.map fun e => (.ctrl e.1, e.2)) b.words :=
  setDdlReg_ctrl l given (same _)

theorem putBit_words (f : CtrlField) {bit : Nat} (single : f.place = (bit, 1)) (value : Word32)
    (b : Bar) :
    (l.updateDdlCtrl (Link.putBit bit value) b).words =
      (ddlBar l).setAll [(.ctrl f, value)] b.words :=
  updateDdlCtrl_words l [(f, value)] (putBit_eq f bit single value) b

theorem or_bit_words (f : CtrlField) {bit : Nat} (single : f.place = (bit, 1)) (b : Bar) :
    (l.updateDdlCtrl (· ||| (1#32 <<< bit)) b).words =
      (ddlBar l).setAll [(.ctrl f, 1)] b.words :=
  updateDdlCtrl_words l [(f, 1)] (or_bit_eq f bit single) b

/-- A register that is one field. -/
theorem setDdlReg_whole {f : DdlField} {addr : Word32} (whole : f.place = ⟨addr, 0, 32⟩)
    (data : Word32) (b : Bar) :
    (l.setDdlReg addr data b).words = (ddlBar l).setAll [(f, data)] b.words := by
  have place : (ddlBar l).place f = ⟨l.ddlAddr addr, 0, 32⟩ := by
    show RegField.mk (l.ddlAddr f.place.addr) f.place.low f.place.width = _
    rw [whole]
  rw [RegLayout.setAll_single, place, Link.setDdlReg_words]
  exact congrArg (Function.update b.words (l.ddlAddr addr)) (setField_whole _ data).symm

/-- One field of a register that is changed in place. -/
theorem updateDdlReg_field {f : DdlField} {v : Word32} {change : Word32 → Word32}
    (same : ∀ w, change w = setField w v f.place.low f.place.width) (b : Bar) :
    (l.updateDdlReg f.place.addr change b).words = (ddlBar l).setAll [(f, v)] b.words := by
  have place : (ddlBar l).place f = ⟨l.ddlAddr f.place.addr, f.place.low, f.place.width⟩ := rfl
  rw [FastClusterFinder.updateDdlReg_words, same, RegLayout.setAll_single, place]

/-- Polling only reads. -/
theorem Patterngenerator.poll_words (b : Bar) :
    ∃ word b', (poll (done l) (!·) pgTimeout b = .ready word b' ∨
      poll (done l) (!·) pgTimeout b = .timeout word b') ∧ b'.words = b.words := by
  have reads := @readState_invariant _ _ (done l) (fun s => s.words = b.words)
    (fun s same => same) b rfl
  rcases poll_spec (done l) (!·) pgTimeout b with ⟨i, -, -, -, ended⟩ | ⟨-, ended⟩
  · exact ⟨_, _, .inl ended, reads (i + 1)⟩
  · exact ⟨_, _, .inr ended, reads (pgTimeout + 1)⟩

theorem Patterngenerator.disable_words (b : Bar) :
    (disable l b).words = (ddlBar l).setAll [(.ctrl .pgEnable, 0)] b.words := by
  have clear (w : Word32) : w &&& ~~~(1#32 <<< 8) = ddlCtrlLayout.setAll [(.pgEnable, 0)] w :=
    and_not_bit_eq .pgEnable 8 rfl w
  have read : (l.ddlReg Reg.ddlCtrl b).2.words = b.words := rfl
  have word : (l.ddlReg Reg.ddlCtrl b).1 = b.words (l.ddlAddr Reg.ddlCtrl) := rfl
  unfold disable
  generalize l.ddlReg Reg.ddlCtrl b = result at read word ⊢
  obtain ⟨ddlctrl, b₁⟩ := result
  rw [← read] at word ⊢
  obtain rfl : ddlctrl = b₁.words (l.ddlAddr Reg.ddlCtrl) := word
  by_cases running : b₁.words (l.ddlAddr Reg.ddlCtrl) &&& (1#32 <<< 8) ≠ 0
  · simp only [if_pos running]
    have cleared := setDdlReg_ctrl l [(.pgEnable, 0)] (clear (b₁.words (l.ddlAddr Reg.ddlCtrl)))
    obtain ⟨word, b', ended | ended, polled⟩ := poll_words l
      (l.setDdlReg Reg.ddlCtrl (b₁.words (l.ddlAddr Reg.ddlCtrl) &&& ~~~(1#32 <<< 8)) b₁)
    · rw [ended]
      exact polled.trans cleared
    · rw [ended]
      exact polled.trans cleared
  · simp only [if_neg running]
    -- the bit is clear already
    have kept : b₁.words (l.ddlAddr Reg.ddlCtrl) &&& ~~~(1#32 <<< 8) =
        b₁.words (l.ddlAddr Reg.ddlCtrl) := and_not_of_clear (not_not.mp running)
    have same := setAll_ctrl l [(.pgEnable, 0)] b₁.words
    rw [← clear, kept, Function.update_eq_self] at same
    exact same.symm

theorem Patterngenerator.configureMode_words (patternMode initialPattern numberOfEvents : Word32)
    (b : Bar) :
    (configureMode l patternMode initialPattern numberOfEvents b).words =
      (ddlBar l).setAll
        (DdlOp.link (.configureMode patternMode initialPattern numberOfEvents)).sets b.words := by
  have mode (w : Word32) : (w &&& ~~~(3#32 <<< 11)) ||| (implementedMode patternMode <<< 11) =
      ddlCtrlLayout.setAll [(.pgMode, implementedMode patternMode)] w :=
    put_eq .pgMode 11 rfl (implementedMode_and patternMode) w
  have continuous (v w : Word32) :
      ddlCtrlLayout.setAll [(.pgMode, implementedMode patternMode), (.pgContinuous, v)] w =
        ddlCtrlLayout.setAll [(.pgContinuous, v)]
          (ddlCtrlLayout.setAll [(.pgMode, implementedMode patternMode)] w) :=
    FieldLayout.setAll_append ddlCtrlLayout [_] [_] w
  have apart : l.ddlAddr Reg.ddlCtrl ≠ l.ddlAddr Reg.ddlPgNumEvents := Link.ddlAddr_ne (by decide)
  unfold configureMode DdlOp.sets LinkOp.pgRegisters LinkOp.gives
  simp only [Link.ddlReg_fst, mode]
  by_cases endless : numberOfEvents = 0
  · simp only [if_neg (not_not.mpr endless), if_pos endless, List.nil_append]
    refine setDdlReg_ctrl l [_, _] ?_
    rw [continuous]
    exact or_bit_eq .pgContinuous 10 rfl _
  · simp only [if_pos endless, if_neg endless]
    rw [RegLayout.setAll_append, ← setDdlReg_whole l rfl numberOfEvents b]
    refine setDdlReg_ctrl l [_, _] ?_
    rw [continuous, Link.setDdlReg_words, Function.update_of_ne apart]
    exact and_not_bit_eq .pgContinuous 10 rfl _

/-- The second write starts from the word, not from the register. -/
theorem Patterngenerator.resetEventId_words (b : Bar) :
    (resetEventId l b).words =
      (ddlBar l).setAll (DdlOp.link .resetEventId).sets b.words := by
  have raise (w : Word32) : w ||| (1#32 <<< 9) = ddlCtrlLayout.setAll [(.eventIdReset, 1)] w :=
    or_bit_eq .eventIdReset 9 rfl w
  have lower (w : Word32) : w &&& ~~~(1#32 <<< 9) = ddlCtrlLayout.setAll [(.eventIdReset, 0)] w :=
    and_not_bit_eq .eventIdReset 9 rfl w
  have twice := setAll_ctrl l [(.eventIdReset, 1), (.eventIdReset, 0)] b.words
  unfold resetEventId
  simp only [Link.ddlReg_fst, Link.setDdlReg_words, Link.ddlReg_words, Function.update_idem]
  rw [lower, raise]
  exact twice.symm

theorem setDataSourceMux_words (value : Word32) (b : Bar) :
    (l.setDataSourceMux value b).words =
      (ddlBar l).setAll [(.ctrl .dataSource, value)] b.words := by
  unfold Link.setDataSourceMux
  exact updateDdlCtrl_words l [(.dataSource, value)] (putMux_eq value) b

theorem LinkOp.run_words (op : LinkOp) (b : Bar) :
    (op.run l b).words = (ddlBar l).setAll (DdlOp.link op).sets b.words := by
  cases op with
  | setFlowControlEnable v => exact putBit_words l .flowControl rfl v b
  | setChannelActive v => exact putBit_words l .active rfl v b
  | setDefaultDataSource => exact setDataSourceMux_words l 0 b
  | setDataSourceDiu => exact setDataSourceMux_words l 0 b
  | setDataSourcePcie => exact setDataSourceMux_words l 0 b
  | setDataSourceDdr3DataReplay => exact setDataSourceMux_words l 1 b
  | setDataSourcePatternGenerator => exact setDataSourceMux_words l 2 b
  | setReset v => exact putBit_words l .reset rfl v b
  | setEnable v =>
      -- the source writes `(enable&1)` without a shift
      have unshifted : Link.putBit 0 v = fun w => (w &&& ~~~(1#32 <<< 0)) ||| (v &&& 1) := by
        funext w
        rw [Link.putBit, BitVec.shiftLeft_zero (v &&& 1)]
      have set := putBit_words l .enable rfl v b
      rw [unshifted] at set
      exact set
  | setForcedXoff v => exact putBit_words l .xoff rfl v b
  | diuClearInterfaceCounters => exact or_bit_words l .counters rfl b
  | siuClearInterfaceCounters => exact or_bit_words l .counters rfl b
  | diuUseAsDataSource =>
      unfold LinkOp.run Diu.useAsDataSource
      exact updateDdlCtrl_words l [(.dataSource, 0)] clearMux_eq b
  | pgEnable => exact or_bit_words l .pgEnable rfl b
  | pgDisable => exact Patterngenerator.disable_words l b
  | resetEventId => exact Patterngenerator.resetEventId_words l b
  | setStaticEventSize eventSize =>
      -- the size goes to a register of its own, then bit 13 is cleared
      rw [DdlOp.sets, RegLayout.setAll_append, pgRegisters,
        ← setDdlReg_whole l rfl eventSize b]
      exact updateDdlCtrl_words l [_] (and_not_bit_eq .prbs 13 rfl) _
  | setPrbsSize minSize maxSizeMask =>
      rw [DdlOp.sets, RegLayout.setAll_append, pgRegisters, ← setDdlReg_whole l rfl _ b]
      exact updateDdlCtrl_words l [_] (or_bit_eq .prbs 13 rfl) _
  | configureMode patternMode initialPattern numberOfEvents =>
      exact Patterngenerator.configureMode_words l patternMode initialPattern numberOfEvents b
  | pgUseAsDataSource =>
      unfold LinkOp.run Patterngenerator.useAsDataSource
      exact updateDdlCtrl_words l [(.dataSource, 2)] (put_eq .dataSource 16 rfl (by decide)) b

/-- Bits 30 to 3, which are not shifted down. -/
theorem startAddress_eq (startAddress w : Word32) :
    (w &&& ~~~0x7ffffff8#32) ||| (startAddress &&& 0x7ffffff8#32) =
      setField w (startAddress >>> 3) 3 28 := by
  have mask : 0x7ffffff8#32 = BitVec.ofNat 32 (2 ^ 28 - 1) <<< 3 := by decide
  rw [setField, mask]
  congr 1
  apply BitVec.eq_of_getLsbD_eq
  intro i inside
  rw [BitVec.getLsbD_and, BitVec.getLsbD_shiftLeft, BitVec.getLsbD_shiftLeft, BitVec.getLsbD_and,
    BitVec.getLsbD_ushiftRight]
  by_cases low : i < 3
  · simp [low]
  · simp [Nat.add_sub_cancel' (Nat.not_lt.mp low), Bool.and_comm, Bool.and_assoc, inside]

theorem filterMask_eq (mask w : Word32) :
    (w &&& 0xff000000#32) ||| (mask &&& 0x00ffffff#32) = setField w mask 0 24 := by
  have kept : 0xff000000#32 = ~~~(BitVec.ofNat 32 (2 ^ 24 - 1) <<< 0) := by decide
  rw [setField, kept, BitVec.shiftLeft_zero (mask &&& _)]
  rfl

theorem filterAll_eq (filterAll : Bool) (w : Word32) :
    (if filterAll then w ||| (1#32 <<< 31) else w &&& ~~~(1#32 <<< 31)) =
      setField w (if filterAll then 1 else 0) 31 1 := by
  cases filterAll with
  | false => exact and_not_eq_setField w 31 1
  | true => exact or_eq_setField w 31 1

/-- Every call writes its settings, and nothing else. -/
theorem DdlOp.run_words (op : DdlOp) (b : Bar) :
    (op.run l b).words = (ddlBar l).setAll op.sets b.words := by
  cases op with
  | link op => exact op.run_words l b
  | fcf op =>
      rw [DdlOp.sets, setAll_fcf]
      exact FastClusterFinder.run_words l op b
  | setReplayEnable v => exact updateDdlReg_field l (f := .replayEnable) (fun _ => rfl) b
  | setReplayReset v => exact updateDdlReg_field l (f := .replayReset) (fun _ => rfl) b
  | setReplayModeOneshot v => exact updateDdlReg_field l (f := .replayOneshot) (fun _ => rfl) b
  | setReplayModeContinuous v =>
      exact updateDdlReg_field l (f := .replayContinuous) (fun _ => rfl) b
  | setReplayStartAddress a =>
      exact updateDdlReg_field l (f := .replayStartAddress) (startAddress_eq a) b
  | setReplayEventLimit n => exact setDdlReg_whole l (f := .numEvents) rfl n b
  | setFilterAll v => exact updateDdlReg_field l (f := .filterAll) (filterAll_eq v) b
  | setFilterMask v => exact updateDdlReg_field l (f := .filterMask) (filterMask_eq v) b

theorem DdlOp.runOps_words (ops : List DdlOp) (b : Bar) :
    (runOps l ops b).words = (ddlBar l).setAll (ops.flatMap sets) b.words :=
  (ddlBar l).foldl_words Bar.words (fun _ => True)
    (fun b op _ => ⟨op.run_words l b, trivial⟩) trivial ops

/-! ## What the getters return -/

theorem getField_one_eq_ite (w : Word32) (bit : Nat) :
    getField w bit 1 = if w.getLsbD bit then 1 else 0 := by
  have value : getField w bit 1 = (BitVec.ofBool ((w >>> bit).getLsbD 0)).setWidth 32 :=
    BitVec.and_one_eq_setWidth_ofBool_getLsbD
  rw [value, BitVec.getLsbD_ushiftRight, Nat.add_zero]
  cases w.getLsbD bit <;> rfl

/-- A flag that is tested in its place. -/
theorem bool_and_bit (w : Word32) {bit : Nat} (inside : bit < 32) :
    (if w &&& (1#32 <<< bit) != 0 then 1 else 0 : Word32) = getField w bit 1 := by
  have single : 1#32 <<< bit = BitVec.twoPow 32 bit := by
    rw [BitVec.twoPow_eq]
  have nonzero : BitVec.twoPow 32 bit ≠ 0#32 := by
    intro zero
    have set := congrArg (fun v => v.getLsbD bit) zero
    simp [inside] at set
  rw [getField_one_eq_ite, single, BitVec.and_twoPow]
  cases w.getLsbD bit <;> simp [nonzero]

theorem bool_getField_ne (w : Word32) (bit : Nat) :
    (if (w >>> bit) &&& 1 != 0 then 1 else 0 : Word32) = getField w bit 1 := by
  have field : (w >>> bit) &&& 1 = getField w bit 1 := rfl
  rw [field, getField_one_eq_ite]
  cases w.getLsbD bit <;> rfl

/-- Each getter reads its field. -/
theorem DdlField.read_eq (b : Bar) (f : DdlField) :
    f.read l b = ((ddlBar l).place f).get b.words := by
  cases f with
  | ctrl f =>
      cases f with
      | enable => exact congrArg (· &&& 1) (BitVec.ushiftRight_zero _).symm
      | flowControl => exact bool_and_bit _ (by decide)
      | active => exact bool_and_bit _ (by decide)
      | reset =>
          -- bit 31 is shifted down without a mask
          have top (w : Word32) : w >>> 31 = getField w 31 1 := by
            have bound := w.isLt
            apply BitVec.eq_of_toNat_eq
            refine Eq.trans ?_ (@toNat_field 32 w 31 1 (by omega)).symm
            rw [BitVec.toNat_ushiftRight, Nat.shiftRight_eq_div_pow]
            omega
          exact top _
      | _ => rfl
  | fcf f => exact FastClusterFinder.read_eq l b f
  | eventLength => exact (getField_whole _).symm
  | numEvents => exact (getField_whole _).symm
  | filterMask => exact congrArg (· &&& 0x00ffffff) (BitVec.ushiftRight_zero _).symm
  | filterAll => exact bool_getField_ne _ 31
  | replayEnable => exact bool_and_bit _ (by decide)
  | replayContinuous => exact bool_and_bit _ (by decide)
  | replayOneshot => exact bool_and_bit _ (by decide)
  | replayStartAddress =>
      have mask : 0x7ffffff8#32 >>> 3 = BitVec.ofNat 32 (2 ^ 28 - 1) := by decide
      have shifted (w : Word32) : (w &&& 0x7ffffff8#32) >>> 3 = getField w 3 28 := by
        rw [BitVec.ushiftRight_and_distrib, mask]
        rfl
      exact shifted _
  | replayReset => exact bool_and_bit _ (by decide)

/-! ## Sequences of calls -/

/-- Between `b` and `b'` each setting got the value the calls gave it last, cut to
its field, and nothing else changed. -/
structure DdlReadsBack (l : Link) (ops : List DdlOp) (b b' : Bar) : Prop where
  getters : ∀ f : DdlField, f.read l b' =
    (lastValue f (ops.flatMap DdlOp.sets)).elim (f.read l b) fun v => getField v 0 f.place.width
  flags : ∀ flag ∈ ddlFlags l, flag b' = flag b
  others : ∀ a i, (ddlBar l).Free a i → (b'.words a).getLsbD i = (b.words a).getLsbD i

/-- A flag that is a bit of DDL_CTRL. -/
theorem flag_eq_of_bit {w w' : Word32} {bit : Nat} (same : w'.getLsbD bit = w.getLsbD bit) :
    w' &&& (1#32 <<< bit) = w &&& (1#32 <<< bit) ∧ (w' >>> bit) &&& 1 = (w >>> bit) &&& 1 := by
  constructor
  · rw [← BitVec.twoPow_eq, BitVec.and_twoPow, BitVec.and_twoPow, same]
  · exact (getField_one_eq_iff w' w bit bit).mpr same

/-- The flags are in bits that are no setting. -/
theorem free_flag {i : Nat} (flag : i ∈ [4, 5, 15, 24, 25, 28, 29, 30]) :
    (ddlBar l).Free (l.ddlAddr Reg.ddlCtrl) i := by
  have none : ∀ i ∈ [4, 5, 15, 24, 25, 28, 29, 30], ∀ f ∈ DdlField.all,
      ¬f.place.Covers Reg.ddlCtrl i := by decide
  exact RegLayout.free_mapAddr (FastClusterFinder.ddlAddr_injective l)
    fun f => none i flag f f.mem_all

end Librorc
