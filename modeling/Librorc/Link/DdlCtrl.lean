import Librorc.Dma.Device
import Librorc.Lib.Poll
import Librorc.Lib.RegFile

/-!
# DDL_CTRL, the register five classes share

`link`, `ddl`, `diu`, `siu` and `patterngenerator` each read the register,
change their own bits and write it back. The BAR is plain storage that
remembers which addresses were touched. Every method comes down to a list of
fields it gives values to (`LinkOp.gives`), and what a sequence of calls leaves
in the register is that list for the whole sequence.
-/

namespace Librorc

open Librorc.Lib

/-! ## The BAR and the window of a link -/

/-- A BAR by addresses of 32-bit words, with the addresses read and written so
far. -/
structure Bar where
  words : Word64 → Word32
  touched : List Word64

namespace Bar

def get32 (address : Word64) (b : Bar) : Word32 × Bar :=
  (b.words address, { b with touched := b.touched ++ [address] })

def set32 (address : Word64) (data : Word32) (b : Bar) : Bar where
  words := Function.update b.words address data
  touched := b.touched ++ [address]

end Bar

/-- `RORC_REGFILE_DDL_SEL`. -/
def regfileDdlSel : Nat := 14

/-- `RORC_CHANNEL_OFFSET`. -/
def channelOffset : Word32 := 0x8000

namespace Reg

def ddlCtrl : Word32 := 8
def ddlPgEventLength : Word32 := 9
def ddlPgPattern : Word32 := 10
def ddlPgNumEvents : Word32 := 11

end Reg

/-- `librorc::link`: its `m_link_number`, and the base that goes with it. -/
structure Link where
  linkNumber : Word32

namespace Link

/-- `m_base`. -/
def base (l : Link) : Word32 := (l.linkNumber + 1) * channelOffset

/-- The BAR address of a register of the DDL file. -/
def ddlAddr (l : Link) (addr : Word32) : Word64 :=
  (l.base + (1#32 <<< regfileDdlSel) + addr).setWidth 64

def ddlReg (l : Link) (addr : Word32) (b : Bar) : Word32 × Bar := b.get32 (l.ddlAddr addr)

def setDdlReg (l : Link) (addr data : Word32) (b : Bar) : Bar := b.set32 (l.ddlAddr addr) data

@[simp] theorem ddlReg_fst (l : Link) (addr : Word32) (b : Bar) :
    (l.ddlReg addr b).1 = b.words (l.ddlAddr addr) := rfl

@[simp] theorem ddlReg_words (l : Link) (addr : Word32) (b : Bar) :
    (l.ddlReg addr b).2.words = b.words := rfl

@[simp] theorem ddlReg_touched (l : Link) (addr : Word32) (b : Bar) :
    (l.ddlReg addr b).2.touched = b.touched ++ [l.ddlAddr addr] := rfl

@[simp] theorem setDdlReg_words (l : Link) (addr data : Word32) (b : Bar) :
    (l.setDdlReg addr data b).words = Function.update b.words (l.ddlAddr addr) data := rfl

@[simp] theorem setDdlReg_touched (l : Link) (addr data : Word32) (b : Bar) :
    (l.setDdlReg addr data b).touched = b.touched ++ [l.ddlAddr addr] := rfl

/-- Read DDL_CTRL, change it, write it back. -/
def updateDdlCtrl (l : Link) (change : Word32 → Word32) (b : Bar) : Bar :=
  let (ddlctrl, b) := l.ddlReg Reg.ddlCtrl b
  l.setDdlReg Reg.ddlCtrl (change ddlctrl) b

/-- "Clear bit, set new value", with the lowest bit of `value`. -/
def putBit (bit : Nat) (value ddlctrl : Word32) : Word32 :=
  (ddlctrl &&& ~~~(1#32 <<< bit)) ||| ((value &&& 1) <<< bit)

/-- The multiplexer in bits 17 and 16. -/
def putMux (value ddlctrl : Word32) : Word32 :=
  (ddlctrl &&& ~~~(3#32 <<< 16)) ||| ((value &&& 3) <<< 16)

/-- Clear under the mask, then put the value there. -/
def putMasked (low : Nat) (mask value reg : Word32) : Word32 :=
  (reg &&& ~~~(mask <<< low)) ||| ((value &&& mask) <<< low)

/-- One bit, by way of a `bool`. -/
theorem bool_getField (w : Word32) (bit : Nat) :
    (if getField w bit 1 == 1 then 1 else 0 : Word32) = getField w bit 1 := by
  have value : getField w bit 1 = (BitVec.ofBool ((w >>> bit).getLsbD 0)).setWidth 32 :=
    BitVec.and_one_eq_setWidth_ofBool_getLsbD
  rw [value]
  cases (w >>> bit).getLsbD 0 <;> rfl

/-! ### `link` -/

def setFlowControlEnable (l : Link) (enable : Word32) : Bar → Bar :=
  l.updateDdlCtrl (putBit 1 enable)

def setChannelActive (l : Link) (active : Word32) : Bar → Bar := l.updateDdlCtrl (putBit 3 active)

def setDataSourceMux (l : Link) (value : Word32) : Bar → Bar := l.updateDdlCtrl (putMux value)

def setDefaultDataSource (l : Link) : Bar → Bar := l.setDataSourceMux 0

def setDataSourceDiu (l : Link) : Bar → Bar := l.setDataSourceMux 0

def setDataSourcePcie (l : Link) : Bar → Bar := l.setDataSourceMux 0

def setDataSourceDdr3DataReplay (l : Link) : Bar → Bar := l.setDataSourceMux 1

def setDataSourcePatternGenerator (l : Link) : Bar → Bar := l.setDataSourceMux 2

end Link

/-! ### `ddl`, `diu` and `siu` -/

namespace Ddl

def setReset (l : Link) (value : Word32) : Bar → Bar := l.updateDdlCtrl (Link.putBit 31 value)

/-- Bit 0 needs no shift. -/
def setEnable (l : Link) (value : Word32) : Bar → Bar :=
  l.updateDdlCtrl fun ddlctrl => (ddlctrl &&& ~~~(1#32 <<< 0)) ||| (value &&& 1)

end Ddl

namespace Diu

def setForcedXoff (l : Link) (xoff : Word32) : Bar → Bar := l.updateDdlCtrl (Link.putBit 6 xoff)

/-- `siu::clearInterfaceCounters` is the same. -/
def clearInterfaceCounters (l : Link) : Bar → Bar := l.updateDdlCtrl (· ||| (1#32 <<< 2))

/-- Only clears the multiplexer. -/
def useAsDataSource (l : Link) : Bar → Bar := l.updateDdlCtrl (· &&& ~~~(3#32 <<< 16))

end Diu

namespace Siu

def clearInterfaceCounters (l : Link) : Bar → Bar := l.updateDdlCtrl (· ||| (1#32 <<< 2))

end Siu

/-! ### `patterngenerator` -/

namespace Patterngenerator

def pgPatternInc : Word32 := 0
def pgPatternDec : Word32 := 2
def pgPatternShift : Word32 := 1
def pgPatternToggle : Word32 := 3

/-- `LIBRORC_PG_TIMEOUT`. -/
def pgTimeout : Nat := 1000

def enable (l : Link) : Bar → Bar := l.updateDdlCtrl (· ||| (1#32 <<< 8))

def done (l : Link) (b : Bar) : Bool × Bar :=
  let (ddlctrl, b) := l.ddlReg Reg.ddlCtrl b
  ((ddlctrl >>> 14) &&& 1 == 1, b)

/-- A timeout has no consequence. -/
def disable (l : Link) (b : Bar) : Bar :=
  let (ddlctrl, b) := l.ddlReg Reg.ddlCtrl b
  if ddlctrl &&& (1#32 <<< 8) ≠ 0 then
    let b := l.setDdlReg Reg.ddlCtrl (ddlctrl &&& ~~~(1#32 <<< 8)) b
    match poll (done l) (!·) pgTimeout b with
    | .ready _ b | .timeout _ b => b
  else b

/-- The register is read once and written twice. -/
def resetEventId (l : Link) (b : Bar) : Bar :=
  let (ddlctrl, b) := l.ddlReg Reg.ddlCtrl b
  let ddlctrl := ddlctrl ||| (1#32 <<< 9)
  let b := l.setDdlReg Reg.ddlCtrl ddlctrl b
  l.setDdlReg Reg.ddlCtrl (ddlctrl &&& ~~~(1#32 <<< 9)) b

def setStaticEventSize (l : Link) (eventSize : Word32) (b : Bar) : Bar :=
  let b := l.setDdlReg Reg.ddlPgEventLength eventSize b
  l.updateDdlCtrl (· &&& ~~~(1#32 <<< 13)) b

def setPrbsSize (l : Link) (prbsMinSize : Word16) (prbsMaxSizeMask : Word32) (b : Bar) : Bar :=
  let eventSize := (prbsMaxSizeMask &&& 0xffff0000) ||| prbsMinSize.setWidth 32
  let b := l.setDdlReg Reg.ddlPgEventLength eventSize b
  l.updateDdlCtrl (· ||| (1#32 <<< 13)) b

/-- "Allow only implemented PatternGenerator modes". -/
def implementedMode (patternMode : Word32) : Word32 :=
  if patternMode = pgPatternDec ∨ patternMode = pgPatternShift ∨ patternMode = pgPatternToggle then
    patternMode &&& 3
  else pgPatternInc

/-- `initialPattern` is not used. -/
def configureMode (l : Link) (patternMode _initialPattern numberOfEvents : Word32) (b : Bar) :
    Bar :=
  let (ddlctrl, b) := l.ddlReg Reg.ddlCtrl b
  let ddlctrl := ddlctrl &&& ~~~(3#32 <<< 11)
  let ddlctrl := ddlctrl ||| (implementedMode patternMode <<< 11)
  if numberOfEvents ≠ 0 then
    let b := l.setDdlReg Reg.ddlPgNumEvents numberOfEvents b
    l.setDdlReg Reg.ddlCtrl (ddlctrl &&& ~~~(1#32 <<< 10)) b
  else l.setDdlReg Reg.ddlCtrl (ddlctrl ||| (1#32 <<< 10)) b

def useAsDataSource (l : Link) : Bar → Bar :=
  l.updateDdlCtrl fun ddlctrl => (ddlctrl &&& ~~~(3#32 <<< 16)) ||| (2#32 <<< 16)

end Patterngenerator

/-! ## Calls and what they are for -/

/-- The methods that write DDL_CTRL. -/
inductive LinkOp
  | setFlowControlEnable (enable : Word32)
  | setChannelActive (active : Word32)
  | setDefaultDataSource
  | setDataSourceDiu
  | setDataSourcePcie
  | setDataSourceDdr3DataReplay
  | setDataSourcePatternGenerator
  | setReset (value : Word32)
  | setEnable (value : Word32)
  | setForcedXoff (xoff : Word32)
  | diuClearInterfaceCounters
  | siuClearInterfaceCounters
  | diuUseAsDataSource
  | pgEnable
  | pgDisable
  | resetEventId
  | setStaticEventSize (eventSize : Word32)
  | setPrbsSize (prbsMinSize : Word16) (prbsMaxSizeMask : Word32)
  | configureMode (patternMode initialPattern numberOfEvents : Word32)
  | pgUseAsDataSource

def LinkOp.run (l : Link) : LinkOp → Bar → Bar
  | .setFlowControlEnable enable => l.setFlowControlEnable enable
  | .setChannelActive active => l.setChannelActive active
  | .setDefaultDataSource => l.setDefaultDataSource
  | .setDataSourceDiu => l.setDataSourceDiu
  | .setDataSourcePcie => l.setDataSourcePcie
  | .setDataSourceDdr3DataReplay => l.setDataSourceDdr3DataReplay
  | .setDataSourcePatternGenerator => l.setDataSourcePatternGenerator
  | .setReset value => Ddl.setReset l value
  | .setEnable value => Ddl.setEnable l value
  | .setForcedXoff xoff => Diu.setForcedXoff l xoff
  | .diuClearInterfaceCounters => Diu.clearInterfaceCounters l
  | .siuClearInterfaceCounters => Siu.clearInterfaceCounters l
  | .diuUseAsDataSource => Diu.useAsDataSource l
  | .pgEnable => Patterngenerator.enable l
  | .pgDisable => Patterngenerator.disable l
  | .resetEventId => Patterngenerator.resetEventId l
  | .setStaticEventSize eventSize => Patterngenerator.setStaticEventSize l eventSize
  | .setPrbsSize minSize maxSizeMask => Patterngenerator.setPrbsSize l minSize maxSizeMask
  | .configureMode patternMode initialPattern numberOfEvents =>
      Patterngenerator.configureMode l patternMode initialPattern numberOfEvents
  | .pgUseAsDataSource => Patterngenerator.useAsDataSource l

/-- A sequence of calls on one link. -/
def Link.runOps (l : Link) (ops : List LinkOp) (b : Bar) : Bar :=
  ops.foldl (fun b op => op.run l b) b

/-- The control fields of DDL_CTRL. -/
inductive CtrlField
  | enable
  | flowControl
  | counters
  | active
  | xoff
  | pgEnable
  | eventIdReset
  | pgContinuous
  | pgMode
  | prbs
  | dataSource
  | reset
deriving DecidableEq

/-- Lowest bit and width. -/
def CtrlField.place : CtrlField → Nat × Nat
  | .enable => (0, 1)
  | .flowControl => (1, 1)
  | .counters => (2, 1)
  | .active => (3, 1)
  | .xoff => (6, 1)
  | .pgEnable => (8, 1)
  | .eventIdReset => (9, 1)
  | .pgContinuous => (10, 1)
  | .pgMode => (11, 2)
  | .prbs => (13, 1)
  | .dataSource => (16, 2)
  | .reset => (31, 1)

def ddlCtrlLayout : FieldLayout CtrlField 32 where
  place f := ⟨(), f.place.1, f.place.2⟩
  fits f := by cases f <;> decide
  apart f g ne := by cases f <;> cases g <;> first | exact absurd rfl ne | decide

/-- The fields a call is a setter of, with the values it gives them. -/
def LinkOp.gives : LinkOp → List (CtrlField × Word32)
  | .setFlowControlEnable enable => [(.flowControl, enable)]
  | .setChannelActive active => [(.active, active)]
  | .setDefaultDataSource | .setDataSourceDiu | .setDataSourcePcie => [(.dataSource, 0)]
  | .setDataSourceDdr3DataReplay => [(.dataSource, 1)]
  | .setDataSourcePatternGenerator => [(.dataSource, 2)]
  | .setReset value => [(.reset, value)]
  | .setEnable value => [(.enable, value)]
  | .setForcedXoff xoff => [(.xoff, xoff)]
  | .diuClearInterfaceCounters | .siuClearInterfaceCounters => [(.counters, 1)]
  | .diuUseAsDataSource => [(.dataSource, 0)]
  | .pgEnable => [(.pgEnable, 1)]
  | .pgDisable => [(.pgEnable, 0)]
  | .resetEventId => [(.eventIdReset, 1), (.eventIdReset, 0)]
  | .setStaticEventSize _ => [(.prbs, 0)]
  | .setPrbsSize _ _ => [(.prbs, 1)]
  | .configureMode patternMode _ numberOfEvents =>
      [(.pgMode, Patterngenerator.implementedMode patternMode),
        (.pgContinuous, if numberOfEvents = 0 then 1 else 0)]
  | .pgUseAsDataSource => [(.dataSource, 2)]

/-! ## Masks and fields -/

section Masks

variable (f : CtrlField) (bit : Nat)

theorem setAll_single (v w : Word32) :
    ddlCtrlLayout.setAll [(f, v)] w = setField w v f.place.1 f.place.2 := rfl

theorem putBit_eq (single : f.place = (bit, 1)) (value w : Word32) :
    Link.putBit bit value w = ddlCtrlLayout.setAll [(f, value)] w := by
  rw [setAll_single, single]
  rfl

theorem or_bit_eq (single : f.place = (bit, 1)) (w : Word32) :
    w ||| (1#32 <<< bit) = ddlCtrlLayout.setAll [(f, 1)] w := by
  rw [setAll_single, single]
  exact or_eq_setField w bit 1

theorem and_not_bit_eq (single : f.place = (bit, 1)) (w : Word32) :
    w &&& ~~~(1#32 <<< bit) = ddlCtrlLayout.setAll [(f, 0)] w := by
  rw [setAll_single, single]
  exact and_not_eq_setField w bit 1

/-- A field of two bits. -/
theorem put_eq (double : f.place = (bit, 2)) {value : Word32} (small : value &&& 3 = value)
    (w : Word32) :
    (w &&& ~~~(3#32 <<< bit)) ||| (value <<< bit) = ddlCtrlLayout.setAll [(f, value)] w := by
  rw [setAll_single, double]
  conv_lhs => rw [← small]
  rfl

theorem putMux_eq (value w : Word32) :
    Link.putMux value w = ddlCtrlLayout.setAll [(.dataSource, value)] w := by
  rw [setAll_single]
  rfl

theorem clearMux_eq (w : Word32) :
    w &&& ~~~(3#32 <<< 16) = ddlCtrlLayout.setAll [(.dataSource, 0)] w := by
  rw [setAll_single]
  exact and_not_eq_setField w 16 2

theorem and_not_of_clear {w mask : Word32} (clear : w &&& mask = 0) : w &&& ~~~mask = w := by
  have split : (w &&& mask) ||| (w &&& ~~~mask) = w := by
    rw [← BitVec.and_or_distrib_left, BitVec.or_not_self, BitVec.and_allOnes]
  rwa [clear, BitVec.ofNat_eq_ofNat, BitVec.zero_or] at split

end Masks

/-! ## What one call does -/

namespace Link

/-- The addresses the calls use. -/
def usedAddrs (l : Link) : List Word64 :=
  [l.ddlAddr Reg.ddlCtrl, l.ddlAddr Reg.ddlPgEventLength, l.ddlAddr Reg.ddlPgNumEvents]

/-- Between `b` and `b'` the fields of `given` got their values, one after the
other, and nothing else of the register or behind other addresses changed. -/
structure Effect (l : Link) (given : List (CtrlField × Word32)) (b b' : Bar) : Prop where
  ctrl : b'.words (l.ddlAddr Reg.ddlCtrl) =
    ddlCtrlLayout.setAll given (b.words (l.ddlAddr Reg.ddlCtrl))
  others : ∀ a, a ∉ l.usedAddrs → b'.words a = b.words a
  touches : ∃ accesses, b'.touched = b.touched ++ accesses ∧ ∀ a ∈ accesses, a ∈ l.usedAddrs

variable {l : Link} {given given' : List (CtrlField × Word32)} {b b' b'' : Bar}

theorem Effect.refl (l : Link) (b : Bar) : l.Effect [] b b :=
  ⟨rfl, fun _ _ => rfl, [], (List.append_nil _).symm, by simp⟩

theorem Effect.trans (first : l.Effect given b b') (second : l.Effect given' b' b'') :
    l.Effect (given ++ given') b b'' := by
  obtain ⟨accesses, touched, used⟩ := first.touches
  obtain ⟨accesses', touched', used'⟩ := second.touches
  refine ⟨?_, fun a unused => (second.others a unused).trans (first.others a unused),
    accesses ++ accesses', ?_, List.forall_mem_append.mpr ⟨used, used'⟩⟩
  · rw [second.ctrl, first.ctrl, FieldLayout.setAll_append]
  · rw [touched', touched, List.append_assoc]

theorem effect_ddlReg (l : Link) (b : Bar) : l.Effect [] b (l.ddlReg Reg.ddlCtrl b).2 :=
  ⟨rfl, fun _ _ => rfl, [_], rfl, by simp [usedAddrs]⟩

/-- Writing DDL_CTRL. -/
theorem effect_setDdlCtrl {data : Word32}
    (value : data = ddlCtrlLayout.setAll given (b.words (l.ddlAddr Reg.ddlCtrl))) :
    l.Effect given b (l.setDdlReg Reg.ddlCtrl data b) := by
  have used : l.ddlAddr Reg.ddlCtrl ∈ l.usedAddrs := List.mem_cons_self
  refine ⟨?_, fun a unused => ?_,
    [l.ddlAddr Reg.ddlCtrl], l.setDdlReg_touched .., by simpa using used⟩
  · rw [setDdlReg_words, Function.update_self, value]
  · have ne : a ≠ l.ddlAddr Reg.ddlCtrl := fun same => unused (same ▸ used)
    rw [setDdlReg_words, Function.update_of_ne ne]

/-- Writing one of the two other registers. -/
theorem effect_setDdlReg {addr : Word32} (data : Word32) (b : Bar)
    (used : l.ddlAddr addr ∈ l.usedAddrs) (ne : l.ddlAddr Reg.ddlCtrl ≠ l.ddlAddr addr) :
    l.Effect [] b (l.setDdlReg addr data b) := by
  refine ⟨?_, fun a unused => ?_, [l.ddlAddr addr], l.setDdlReg_touched .., by simpa using used⟩
  · rw [setDdlReg_words, Function.update_of_ne ne]
    rfl
  · have ne : a ≠ l.ddlAddr addr := fun same => unused (same ▸ used)
    rw [setDdlReg_words, Function.update_of_ne ne]

theorem effect_updateDdlCtrl {change : Word32 → Word32} (b : Bar)
    (same : ∀ w, change w = ddlCtrlLayout.setAll given w) :
    l.Effect given b (l.updateDdlCtrl change b) :=
  (effect_ddlReg l b).trans (effect_setDdlCtrl (same _))

theorem effect_setDataSourceMux (l : Link) (value : Word32) (b : Bar) :
    l.Effect [(.dataSource, value)] b (l.setDataSourceMux value b) := by
  unfold setDataSourceMux
  exact effect_updateDdlCtrl b (putMux_eq value)

theorem effect_or_bit (l : Link) (f : CtrlField) {bit : Nat} (single : f.place = (bit, 1))
    (b : Bar) :
    l.Effect [(f, 1)] b (l.updateDdlCtrl (· ||| (1#32 <<< bit)) b) :=
  effect_updateDdlCtrl b (or_bit_eq f bit single)

theorem effect_putBit (l : Link) (f : CtrlField) {bit : Nat} (single : f.place = (bit, 1))
    (value : Word32) (b : Bar) :
    l.Effect [(f, value)] b (l.updateDdlCtrl (putBit bit value) b) :=
  effect_updateDdlCtrl b (putBit_eq f bit single value)

theorem ddlAddr_ne {addr addr' : Word32} (ne : addr ≠ addr') :
    l.ddlAddr addr ≠ l.ddlAddr addr' := by
  intro same
  refine ne ?_
  have low := congrArg (BitVec.setWidth 32) same
  simpa [ddlAddr] using low

theorem effect_setPgEventLength (l : Link) (data : Word32) (b : Bar) :
    l.Effect [] b (l.setDdlReg Reg.ddlPgEventLength data b) :=
  effect_setDdlReg data b (by simp [usedAddrs]) (ddlAddr_ne (by decide))

theorem effect_setPgNumEvents (l : Link) (data : Word32) (b : Bar) :
    l.Effect [] b (l.setDdlReg Reg.ddlPgNumEvents data b) :=
  effect_setDdlReg data b (by simp [usedAddrs]) (ddlAddr_ne (by decide))

end Link

namespace Patterngenerator

open Link

/-- Polling only reads. -/
theorem effect_poll (l : Link) (b : Bar) :
    ∃ word b', (poll (done l) (!·) pgTimeout b = .ready word b' ∨
      poll (done l) (!·) pgTimeout b = .timeout word b') ∧ l.Effect [] b b' := by
  have kept : ∀ s, l.Effect [] b s → l.Effect [] b (done l s).2 :=
    fun s before => before.trans (effect_ddlReg l s)
  have reads := readState_invariant kept (Effect.refl l b)
  rcases poll_spec (done l) (!·) pgTimeout b with ⟨i, -, -, -, ended⟩ | ⟨-, ended⟩
  · exact ⟨_, _, .inl ended, reads (i + 1)⟩
  · exact ⟨_, _, .inr ended, reads (pgTimeout + 1)⟩

theorem effect_enable (l : Link) (b : Bar) : l.Effect [(.pgEnable, 1)] b (enable l b) := by
  unfold enable
  exact effect_or_bit l .pgEnable rfl b

theorem effect_useAsDataSource (l : Link) (b : Bar) :
    l.Effect [(.dataSource, 2)] b (useAsDataSource l b) := by
  unfold useAsDataSource
  exact effect_updateDdlCtrl b (put_eq .dataSource 16 rfl (by decide))

theorem effect_disable (l : Link) (b : Bar) : l.Effect [(.pgEnable, 0)] b (disable l b) := by
  have read := effect_ddlReg l b
  have word : (l.ddlReg Reg.ddlCtrl b).1 =
      (l.ddlReg Reg.ddlCtrl b).2.words (l.ddlAddr Reg.ddlCtrl) := rfl
  unfold disable
  generalize l.ddlReg Reg.ddlCtrl b = result at read word ⊢
  obtain ⟨ddlctrl, b₁⟩ := result
  obtain rfl : ddlctrl = b₁.words (l.ddlAddr Reg.ddlCtrl) := word
  by_cases running : b₁.words (l.ddlAddr Reg.ddlCtrl) &&& (1#32 <<< 8) ≠ 0
  · simp only [if_pos running]
    have cleared := read.trans (effect_setDdlCtrl (and_not_bit_eq .pgEnable 8 rfl _))
    obtain ⟨word, b', ended | ended, polled⟩ := effect_poll l _
    · rw [ended]
      exact cleared.trans polled
    · rw [ended]
      exact cleared.trans polled
  · simp only [if_neg running]
    -- the bit is clear already
    have same : b₁.words (l.ddlAddr Reg.ddlCtrl) = b.words (l.ddlAddr Reg.ddlCtrl) := read.ctrl
    refine ⟨?_, read.others, read.touches⟩
    rw [← and_not_bit_eq .pgEnable 8 rfl, ← same]
    exact (and_not_of_clear (not_not.mp running)).symm

theorem effect_resetEventId (l : Link) (b : Bar) :
    l.Effect [(.eventIdReset, 1), (.eventIdReset, 0)] b (resetEventId l b) := by
  have set (w : Word32) : w ||| (1#32 <<< 9) = ddlCtrlLayout.setAll [(.eventIdReset, 1)] w :=
    or_bit_eq .eventIdReset 9 rfl w
  have held := (effect_ddlReg l b).trans (effect_setDdlCtrl (set _))
  -- the second write starts from the word, not from the register
  refine held.trans (effect_setDdlCtrl ?_)
  rw [held.ctrl, set]
  exact and_not_bit_eq .eventIdReset 9 rfl _

theorem effect_setStaticEventSize (l : Link) (eventSize : Word32) (b : Bar) :
    l.Effect [(.prbs, 0)] b (setStaticEventSize l eventSize b) := by
  unfold setStaticEventSize
  have sized := effect_setPgEventLength l eventSize b
  exact sized.trans (effect_updateDdlCtrl _ fun w => and_not_bit_eq .prbs 13 rfl w)

theorem effect_setPrbsSize (l : Link) (prbsMinSize : Word16) (prbsMaxSizeMask : Word32)
    (b : Bar) : l.Effect [(.prbs, 1)] b (setPrbsSize l prbsMinSize prbsMaxSizeMask b) := by
  unfold setPrbsSize
  have sized := effect_setPgEventLength l
    ((prbsMaxSizeMask &&& 0xffff0000) ||| prbsMinSize.setWidth 32) b
  exact sized.trans (effect_updateDdlCtrl _ fun w => or_bit_eq .prbs 13 rfl w)

theorem implementedMode_and (patternMode : Word32) :
    implementedMode patternMode &&& 3 = implementedMode patternMode := by
  unfold implementedMode
  split
  · rw [BitVec.and_assoc, BitVec.and_self]
  · decide

theorem effect_configureMode (l : Link) (patternMode initialPattern numberOfEvents : Word32)
    (b : Bar) :
    l.Effect (LinkOp.configureMode patternMode initialPattern numberOfEvents).gives b
      (configureMode l patternMode initialPattern numberOfEvents b) := by
  have mode (w : Word32) : (w &&& ~~~(3#32 <<< 11)) ||| (implementedMode patternMode <<< 11) =
      ddlCtrlLayout.setAll [(.pgMode, implementedMode patternMode)] w :=
    put_eq .pgMode 11 rfl (implementedMode_and patternMode) w
  have continuous (v w : Word32) :
      ddlCtrlLayout.setAll [(.pgMode, implementedMode patternMode), (.pgContinuous, v)] w =
        ddlCtrlLayout.setAll [(.pgContinuous, v)]
          (ddlCtrlLayout.setAll [(.pgMode, implementedMode patternMode)] w) :=
    FieldLayout.setAll_append ddlCtrlLayout [_] [_] w
  have read := effect_ddlReg l b
  unfold configureMode LinkOp.gives
  simp only [ddlReg_fst, mode]
  by_cases endless : numberOfEvents = 0
  · rw [if_neg (not_not.mpr endless), if_pos endless]
    refine read.trans (effect_setDdlCtrl ?_)
    rw [continuous, ddlReg_words]
    exact or_bit_eq .pgContinuous 10 rfl _
  · rw [if_pos endless, if_neg endless]
    have counted := read.trans (effect_setPgNumEvents l numberOfEvents _)
    refine counted.trans (effect_setDdlCtrl ?_)
    rw [counted.ctrl, continuous]
    exact and_not_bit_eq .pgContinuous 10 rfl _

end Patterngenerator

namespace Link

/-- Every call gives its own fields their values. -/
theorem effect_run (l : Link) (op : LinkOp) (b : Bar) : l.Effect op.gives b (op.run l b) := by
  cases op with
  | setFlowControlEnable enable => exact effect_putBit l .flowControl rfl enable b
  | setChannelActive active => exact effect_putBit l .active rfl active b
  | setDefaultDataSource => exact effect_setDataSourceMux l 0 b
  | setDataSourceDiu => exact effect_setDataSourceMux l 0 b
  | setDataSourcePcie => exact effect_setDataSourceMux l 0 b
  | setDataSourceDdr3DataReplay => exact effect_setDataSourceMux l 1 b
  | setDataSourcePatternGenerator => exact effect_setDataSourceMux l 2 b
  | setReset value => exact effect_putBit l .reset rfl value b
  | setEnable value =>
      have unshifted : putBit 0 value = fun w => (w &&& ~~~(1#32 <<< 0)) ||| (value &&& 1) := by
        funext w
        rw [putBit, BitVec.shiftLeft_zero (value &&& 1)]
      have effect := effect_putBit l .enable rfl value b
      rw [unshifted] at effect
      exact effect
  | setForcedXoff xoff => exact effect_putBit l .xoff rfl xoff b
  | diuClearInterfaceCounters => exact effect_or_bit l .counters rfl b
  | siuClearInterfaceCounters => exact effect_or_bit l .counters rfl b
  | diuUseAsDataSource =>
      unfold LinkOp.run Diu.useAsDataSource
      exact effect_updateDdlCtrl b clearMux_eq
  | pgEnable => exact Patterngenerator.effect_enable l b
  | pgDisable => exact Patterngenerator.effect_disable l b
  | resetEventId => exact Patterngenerator.effect_resetEventId l b
  | setStaticEventSize eventSize => exact Patterngenerator.effect_setStaticEventSize l eventSize b
  | setPrbsSize minSize maxSizeMask =>
      exact Patterngenerator.effect_setPrbsSize l minSize maxSizeMask b
  | configureMode patternMode initialPattern numberOfEvents =>
      exact Patterngenerator.effect_configureMode l patternMode initialPattern numberOfEvents b
  | pgUseAsDataSource => exact Patterngenerator.effect_useAsDataSource l b

theorem effect_runOps (l : Link) (ops : List LinkOp) (b : Bar) :
    l.Effect (ops.flatMap LinkOp.gives) b (l.runOps ops b) := by
  induction ops generalizing b with
  | nil => exact Effect.refl l b
  | cons op rest ih => exact (effect_run l op b).trans (ih _)

/-! ## Windows -/

/-- The addresses of the channel. -/
def InWindow (l : Link) (a : Word64) : Prop :=
  l.base.toNat ≤ a.toNat ∧ a.toNat < l.base.toNat + 0x8000

theorem base_aligned (l : Link) : ∃ k, l.base.toNat = 0x8000 * k ∧ k < 2 ^ 17 := by
  have value : l.base.toNat = (l.linkNumber + 1).toNat * 0x8000 % 2 ^ 32 := BitVec.toNat_mul ..
  exact ⟨(l.linkNumber + 1).toNat % 2 ^ 17, by omega, by omega⟩

/-- Link numbers of up to 17 bits have bases of their own. -/
theorem base_ne {l other : Link} (small : l.linkNumber.toNat < 2 ^ 17)
    (small' : other.linkNumber.toNat < 2 ^ 17) (ne : l.linkNumber ≠ other.linkNumber) :
    l.base ≠ other.base := by
  intro same
  have value (l : Link) : l.base.toNat = (l.linkNumber.toNat + 1) % 2 ^ 32 * 0x8000 % 2 ^ 32 := by
    rw [base, BitVec.toNat_mul, BitVec.toNat_add]
    rfl
  have equal := congrArg BitVec.toNat same
  rw [value, value] at equal
  exact ne (BitVec.eq_of_toNat_eq (by omega))

theorem ddlAddr_inWindow (l : Link) {addr : Word32} (small : addr.toNat < 0x4000) :
    l.InWindow (l.ddlAddr addr) := by
  obtain ⟨k, aligned, inRange⟩ := l.base_aligned
  have value : (l.ddlAddr addr).toNat = l.base.toNat + 0x4000 + addr.toNat := by
    rw [ddlAddr, BitVec.toNat_setWidth, BitVec.toNat_add, BitVec.toNat_add]
    show ((l.base.toNat + 0x4000) % 2 ^ 32 + addr.toNat) % 2 ^ 32 % 2 ^ 64 = _
    omega
  rw [InWindow, value]
  omega

theorem usedAddrs_inWindow (l : Link) : ∀ a ∈ l.usedAddrs, l.InWindow a := by
  simp only [usedAddrs, List.forall_mem_cons, List.not_mem_nil, false_imp_iff, implies_true,
    and_true]
  exact ⟨l.ddlAddr_inWindow (by decide), l.ddlAddr_inWindow (by decide),
    l.ddlAddr_inWindow (by decide)⟩

/-- Windows of different bases have no address in common. -/
theorem not_inWindow {l other : Link} (ne : l.base ≠ other.base) {a : Word64}
    (here : l.InWindow a) : ¬other.InWindow a := by
  obtain ⟨k, aligned, -⟩ := l.base_aligned
  obtain ⟨k', aligned', -⟩ := other.base_aligned
  have differ : l.base.toNat ≠ other.base.toNat := fun same => ne (BitVec.eq_of_toNat_eq same)
  rw [InWindow] at here ⊢
  omega

/-- **One register, five classes.** After any sequence of calls on a link every
control field holds the value one of its own setters gave it last, cut to the
field, or what it held before; the other bits are what they were; and no call
touched an address of another channel. -/
theorem ddlCtrl_fields (l : Link) (ops : List LinkOp) (b : Bar) :
    let ctrl := l.ddlAddr Reg.ddlCtrl
    let b' := l.runOps ops b
    (∀ f : CtrlField, ddlCtrlLayout.get f (b'.words ctrl) =
      ddlCtrlLayout.lastGiven f (ops.flatMap LinkOp.gives)
        (ddlCtrlLayout.get f (b.words ctrl))) ∧
    (∀ i, ddlCtrlLayout.Free i → (b'.words ctrl).getLsbD i = (b.words ctrl).getLsbD i) ∧
    ∃ accesses, b'.touched = b.touched ++ accesses ∧
      ∀ a ∈ accesses, l.InWindow a ∧ ∀ other : Link, l.base ≠ other.base → ¬other.InWindow a := by
  obtain ⟨ctrl, -, accesses, touched, used⟩ := effect_runOps l ops b
  refine ⟨fun f => ?_, fun i free => ?_, accesses, touched, fun a member => ?_⟩
  · rw [ctrl, FieldLayout.get_setAll]
  · rw [ctrl, FieldLayout.getLsbD_setAll _ free]
  · have here := l.usedAddrs_inWindow a (used a member)
    exact ⟨here, fun other ne => not_inWindow ne here⟩

end Link

end Librorc
