import Librorc.Link.DdlCtrl
import Librorc.Lib.RegFile

/-!
# `fastclusterfinder`

Its settings are packed into FCF_CTRL, FCF_LIMITS and FCF_LIMITS2 of the DDL
file, and each setter puts its argument into the field that its getter reads.
The legacy `setSplitClusterTagging` enables the tagging whatever its argument
is, and two of the four bits documented for the noise suppression neighbor are
not kept.
-/

namespace Librorc

open Librorc.Lib

namespace Reg

def fcfLimits : Word32 := 0
def fcfCtrl : Word32 := 12
def fcfLimits2 : Word32 := 31

end Reg

/-- Read a register of the DDL file, change it, write it back. -/
def Link.updateDdlReg (l : Link) (addr : Word32) (change : Word32 → Word32) (b : Bar) : Bar :=
  let (value, b) := l.ddlReg addr b
  l.setDdlReg addr (change value) b

/-! ## The accessors -/

namespace FastClusterFinder

open Link (putMasked)

variable (l : Link)

def setCtrlBit (pos : Nat) (val : Word32) : Bar → Bar :=
  l.updateDdlReg Reg.fcfCtrl (putMasked pos 1 val)

/-- Shift and mask a register. -/
def getMasked (addr : Word32) (low : Nat) (mask : Word32) (b : Bar) : Word32 :=
  ((l.ddlReg addr b).1 >>> low) &&& mask

def getCtrlBit (pos : Nat) (b : Bar) : Word32 := getMasked l Reg.fcfCtrl pos 1 b

/-! ### Basic controls -/

def setReset (val : Word32) : Bar → Bar := setCtrlBit l 15 val

def setEnable (val : Word32) : Bar → Bar := setCtrlBit l 0 val

def setBypass (val : Word32) : Bar → Bar := setCtrlBit l 13 val

def setState (reset enable : Word32) (b : Bar) : Bar := setEnable l enable (setReset l reset b)

def isEnabled (b : Bar) : Bool := getCtrlBit l 0 b == 1

def isInReset (b : Bar) : Bool := getCtrlBit l 15 b == 1

def isBypassed (b : Bar) : Bool := getCtrlBit l 13 b == 1

/-! ### Configuration and status -/

def setSinglePadSuppression (spSupprValue : Word32) : Bar → Bar := setCtrlBit l 2 spSupprValue

def singlePadSuppression (b : Bar) : Word32 := getCtrlBit l 2 b

def setBypassMerger (bypassValue : Word32) : Bar → Bar := setCtrlBit l 3 bypassValue

def bypassMerger (b : Bar) : Word32 := getCtrlBit l 3 b

def setDeconvPad (deconvValue : Word32) : Bar → Bar := setCtrlBit l 4 deconvValue

def deconvPad (b : Bar) : Word32 := getCtrlBit l 4 b

def setMergerAlgorithm (mode : Word32) : Bar → Bar := setCtrlBit l 5 mode

def mergerAlgorithm (b : Bar) : Word32 := getCtrlBit l 5 b

def setBranchOverride (ovrd : Word32) : Bar → Bar := setCtrlBit l 14 ovrd

def branchOverride (b : Bar) : Word32 := getCtrlBit l 14 b

def tagDeconvolutedClusters (b : Bar) : Word32 := getMasked l Reg.fcfCtrl 16 3 b

def setTagDeconvolutedClusters (tag : Word32) : Bar → Bar :=
  l.updateDdlReg Reg.fcfCtrl (putMasked 16 3 tag)

def splitClusterTagging (b : Bar) : Word32 := tagDeconvolutedClusters l b

/-- `tag` is not used. -/
def setSplitClusterTagging (_tag : Word32) : Bar → Bar := setTagDeconvolutedClusters l 1

def setSingleSeqLimit (singeSeqLimit : Word8) : Bar → Bar :=
  l.updateDdlReg Reg.fcfLimits (putMasked 16 0xff (singeSeqLimit.setWidth 32))

def singleSeqLimit (b : Bar) : Word8 := (getMasked l Reg.fcfLimits 16 0xff b).setWidth 8

def setClusterLowerLimit (clusterLowLimit : Word16) : Bar → Bar :=
  l.updateDdlReg Reg.fcfLimits (putMasked 0 0xffff (clusterLowLimit.setWidth 32))

def clusterLowerLimit (b : Bar) : Word16 := (getMasked l Reg.fcfLimits 0 0xffff b).setWidth 16

def setMergerDistance (matchDistance : Word8) : Bar → Bar :=
  l.updateDdlReg Reg.fcfLimits (putMasked 24 0x0f (matchDistance.setWidth 32))

def mergerDistance (b : Bar) : Word8 := (getMasked l Reg.fcfLimits 24 0x0f b).setWidth 8

def setChargeTolerance (chargeTolerance : Word8) : Bar → Bar :=
  l.updateDdlReg Reg.fcfLimits (putMasked 28 0x0f (chargeTolerance.setWidth 32))

def chargeTolerance (b : Bar) : Word8 := (getMasked l Reg.fcfLimits 28 0x0f b).setWidth 8

def errorMask (b : Bar) : Word8 := (getMasked l Reg.fcfCtrl 6 0x7f b).setWidth 8

/-- Read once and written twice. -/
def clearErrors (b : Bar) : Bar :=
  let (fcfctrl, b) := l.ddlReg Reg.fcfCtrl b
  let fcfctrl := fcfctrl ||| (1#32 <<< 1)
  let b := l.setDdlReg Reg.fcfCtrl fcfctrl b
  l.setDdlReg Reg.fcfCtrl (fcfctrl &&& ~~~(1#32 <<< 1)) b

def setNoiseSuppression (noiseSuppresion : Word8) : Bar → Bar :=
  l.updateDdlReg Reg.fcfLimits2 (putMasked 28 0xf (noiseSuppresion.setWidth 32))

def noiseSuppression (b : Bar) : Word8 := (getMasked l Reg.fcfLimits2 28 0xf b).setWidth 8

def setNoiseSuppressionMinimum (noiseSuppresion : Word8) : Bar → Bar :=
  l.updateDdlReg Reg.fcfLimits2 (putMasked 24 0xf (noiseSuppresion.setWidth 32))

def noiseSuppressionMinimum (b : Bar) : Word8 := (getMasked l Reg.fcfLimits2 24 0xf b).setWidth 8

def setNoiseSuppressionNeighbor (noiseSuppresion : Word8) : Bar → Bar :=
  l.updateDdlReg Reg.fcfCtrl (putMasked 18 0x3 (noiseSuppresion.setWidth 32))

def noiseSuppressionNeighbor (b : Bar) : Word8 := (getMasked l Reg.fcfCtrl 18 0x3 b).setWidth 8

def setClusterQmaxLowerLimit (limit : Word16) : Bar → Bar :=
  l.updateDdlReg Reg.fcfLimits2 (putMasked 0 0x7ff (limit.setWidth 32))

def clusterQmaxLowerLimit (b : Bar) : Word16 := (getMasked l Reg.fcfLimits2 0 0x7ff b).setWidth 16

def tagBorderClusters (b : Bar) : Word32 := getCtrlBit l 20 b

def setTagBorderClusters (tag : Word32) : Bar → Bar := setCtrlBit l 20 tag

def correctEdgeClusters (b : Bar) : Word32 := getCtrlBit l 21 b

def setCorrectEdgeClusters (value : Word32) : Bar → Bar := setCtrlBit l 21 value

end FastClusterFinder

/-! ## Calls and fields -/

/-- The methods that write one of the three registers. -/
inductive FcfOp
  | setReset (val : Word32)
  | setEnable (val : Word32)
  | setBypass (val : Word32)
  | setState (reset enable : Word32)
  | setSinglePadSuppression (spSupprValue : Word32)
  | setBypassMerger (bypassValue : Word32)
  | setDeconvPad (deconvValue : Word32)
  | setMergerAlgorithm (mode : Word32)
  | setBranchOverride (ovrd : Word32)
  | setSplitClusterTagging (tag : Word32)
  | setSingleSeqLimit (singeSeqLimit : Word8)
  | setClusterLowerLimit (clusterLowLimit : Word16)
  | setMergerDistance (matchDistance : Word8)
  | setChargeTolerance (chargeTolerance : Word8)
  | clearErrors
  | setNoiseSuppression (noiseSuppresion : Word8)
  | setNoiseSuppressionMinimum (noiseSuppresion : Word8)
  | setNoiseSuppressionNeighbor (noiseSuppresion : Word8)
  | setClusterQmaxLowerLimit (limit : Word16)
  | setTagBorderClusters (tag : Word32)
  | setCorrectEdgeClusters (value : Word32)
  | setTagDeconvolutedClusters (tag : Word32)

namespace FastClusterFinder

def run (l : Link) : FcfOp → Bar → Bar
  | .setReset val => setReset l val
  | .setEnable val => setEnable l val
  | .setBypass val => setBypass l val
  | .setState reset enable => setState l reset enable
  | .setSinglePadSuppression spSupprValue => setSinglePadSuppression l spSupprValue
  | .setBypassMerger bypassValue => setBypassMerger l bypassValue
  | .setDeconvPad deconvValue => setDeconvPad l deconvValue
  | .setMergerAlgorithm mode => setMergerAlgorithm l mode
  | .setBranchOverride ovrd => setBranchOverride l ovrd
  | .setSplitClusterTagging tag => setSplitClusterTagging l tag
  | .setSingleSeqLimit singeSeqLimit => setSingleSeqLimit l singeSeqLimit
  | .setClusterLowerLimit clusterLowLimit => setClusterLowerLimit l clusterLowLimit
  | .setMergerDistance matchDistance => setMergerDistance l matchDistance
  | .setChargeTolerance chargeTolerance => setChargeTolerance l chargeTolerance
  | .clearErrors => clearErrors l
  | .setNoiseSuppression noiseSuppresion => setNoiseSuppression l noiseSuppresion
  | .setNoiseSuppressionMinimum noiseSuppresion => setNoiseSuppressionMinimum l noiseSuppresion
  | .setNoiseSuppressionNeighbor noiseSuppresion => setNoiseSuppressionNeighbor l noiseSuppresion
  | .setClusterQmaxLowerLimit limit => setClusterQmaxLowerLimit l limit
  | .setTagBorderClusters tag => setTagBorderClusters l tag
  | .setCorrectEdgeClusters value => setCorrectEdgeClusters l value
  | .setTagDeconvolutedClusters tag => setTagDeconvolutedClusters l tag

/-- A sequence of calls. -/
def runOps (l : Link) (ops : List FcfOp) (b : Bar) : Bar :=
  ops.foldl (fun b op => run l op b) b

end FastClusterFinder

/-- What the getters read, and the bit that clears the errors. -/
inductive FcfField
  | enable
  | errorClear
  | singlePadSuppression
  | bypassMerger
  | deconvPad
  | mergerAlgorithm
  | errorMask
  | bypass
  | branchOverride
  | reset
  | tagDeconvolutedClusters
  | noiseSuppressionNeighbor
  | tagBorderClusters
  | correctEdgeClusters
  | clusterLowerLimit
  | singleSeqLimit
  | mergerDistance
  | chargeTolerance
  | clusterQmaxLowerLimit
  | noiseSuppressionMinimum
  | noiseSuppression
deriving DecidableEq

namespace FcfField

def all : List FcfField :=
  [enable, errorClear, singlePadSuppression, bypassMerger, deconvPad, mergerAlgorithm, errorMask,
    bypass, branchOverride, reset, tagDeconvolutedClusters, noiseSuppressionNeighbor,
    tagBorderClusters, correctEdgeClusters, clusterLowerLimit, singleSeqLimit, mergerDistance,
    chargeTolerance, clusterQmaxLowerLimit, noiseSuppressionMinimum, noiseSuppression]

theorem mem_all (f : FcfField) : f ∈ all := by cases f <;> decide

/-- Register, lowest bit and width. -/
def place : FcfField → RegField Word32
  | .enable => ⟨Reg.fcfCtrl, 0, 1⟩
  | .errorClear => ⟨Reg.fcfCtrl, 1, 1⟩
  | .singlePadSuppression => ⟨Reg.fcfCtrl, 2, 1⟩
  | .bypassMerger => ⟨Reg.fcfCtrl, 3, 1⟩
  | .deconvPad => ⟨Reg.fcfCtrl, 4, 1⟩
  | .mergerAlgorithm => ⟨Reg.fcfCtrl, 5, 1⟩
  | .errorMask => ⟨Reg.fcfCtrl, 6, 7⟩
  | .bypass => ⟨Reg.fcfCtrl, 13, 1⟩
  | .branchOverride => ⟨Reg.fcfCtrl, 14, 1⟩
  | .reset => ⟨Reg.fcfCtrl, 15, 1⟩
  | .tagDeconvolutedClusters => ⟨Reg.fcfCtrl, 16, 2⟩
  | .noiseSuppressionNeighbor => ⟨Reg.fcfCtrl, 18, 2⟩
  | .tagBorderClusters => ⟨Reg.fcfCtrl, 20, 1⟩
  | .correctEdgeClusters => ⟨Reg.fcfCtrl, 21, 1⟩
  | .clusterLowerLimit => ⟨Reg.fcfLimits, 0, 16⟩
  | .singleSeqLimit => ⟨Reg.fcfLimits, 16, 8⟩
  | .mergerDistance => ⟨Reg.fcfLimits, 24, 4⟩
  | .chargeTolerance => ⟨Reg.fcfLimits, 28, 4⟩
  | .clusterQmaxLowerLimit => ⟨Reg.fcfLimits2, 0, 11⟩
  | .noiseSuppressionMinimum => ⟨Reg.fcfLimits2, 24, 4⟩
  | .noiseSuppression => ⟨Reg.fcfLimits2, 28, 4⟩

end FcfField

def fcfLayout : RegLayout FcfField Word32 32 where
  place := FcfField.place
  fits f := by cases f <;> decide
  apart _ _ := RegLayout.apart_of_pairwise FcfField.mem_all (by decide)

namespace FastClusterFinder

open Link (putMasked)

/-- The value of a field, by its getter. The bit that clears the errors has none. -/
def read (l : Link) (b : Bar) : FcfField → Word32
  | .enable => if isEnabled l b then 1 else 0
  | .errorClear => getCtrlBit l 1 b
  | .singlePadSuppression => singlePadSuppression l b
  | .bypassMerger => bypassMerger l b
  | .deconvPad => deconvPad l b
  | .mergerAlgorithm => mergerAlgorithm l b
  | .errorMask => (errorMask l b).setWidth 32
  | .bypass => if isBypassed l b then 1 else 0
  | .branchOverride => branchOverride l b
  | .reset => if isInReset l b then 1 else 0
  | .tagDeconvolutedClusters => tagDeconvolutedClusters l b
  | .noiseSuppressionNeighbor => (noiseSuppressionNeighbor l b).setWidth 32
  | .tagBorderClusters => tagBorderClusters l b
  | .correctEdgeClusters => correctEdgeClusters l b
  | .clusterLowerLimit => (clusterLowerLimit l b).setWidth 32
  | .singleSeqLimit => (singleSeqLimit l b).setWidth 32
  | .mergerDistance => (mergerDistance l b).setWidth 32
  | .chargeTolerance => (chargeTolerance l b).setWidth 32
  | .clusterQmaxLowerLimit => (clusterQmaxLowerLimit l b).setWidth 32
  | .noiseSuppressionMinimum => (noiseSuppressionMinimum l b).setWidth 32
  | .noiseSuppression => (noiseSuppression l b).setWidth 32

/-- The documented width of a value: the field's, but "0-15" for the noise
suppression neighbor. The cluster lower limit has two, "0 to (2^15-1)" at its
setter and "16 bit" at its getter; the getter's is taken, which is the field's. -/
def documentedWidth : FcfField → Nat
  | .noiseSuppressionNeighbor => 4
  | f => f.place.width

/-- What a call is to set. The legacy tag is "1 to enable, 0 to disable". -/
def gives : FcfOp → List (FcfField × Word32)
  | .setReset val => [(.reset, val)]
  | .setEnable val => [(.enable, val)]
  | .setBypass val => [(.bypass, val)]
  | .setState reset enable => [(.reset, reset), (.enable, enable)]
  | .setSinglePadSuppression spSupprValue => [(.singlePadSuppression, spSupprValue)]
  | .setBypassMerger bypassValue => [(.bypassMerger, bypassValue)]
  | .setDeconvPad deconvValue => [(.deconvPad, deconvValue)]
  | .setMergerAlgorithm mode => [(.mergerAlgorithm, mode)]
  | .setBranchOverride ovrd => [(.branchOverride, ovrd)]
  | .setSplitClusterTagging tag => [(.tagDeconvolutedClusters, getField tag 0 1)]
  | .setSingleSeqLimit singeSeqLimit => [(.singleSeqLimit, singeSeqLimit.setWidth 32)]
  | .setClusterLowerLimit clusterLowLimit => [(.clusterLowerLimit, clusterLowLimit.setWidth 32)]
  | .setMergerDistance matchDistance => [(.mergerDistance, matchDistance.setWidth 32)]
  | .setChargeTolerance chargeTolerance => [(.chargeTolerance, chargeTolerance.setWidth 32)]
  | .clearErrors => [(.errorClear, 1), (.errorClear, 0)]
  | .setNoiseSuppression noiseSuppresion => [(.noiseSuppression, noiseSuppresion.setWidth 32)]
  | .setNoiseSuppressionMinimum noiseSuppresion =>
      [(.noiseSuppressionMinimum, noiseSuppresion.setWidth 32)]
  | .setNoiseSuppressionNeighbor noiseSuppresion =>
      [(.noiseSuppressionNeighbor, noiseSuppresion.setWidth 32)]
  | .setClusterQmaxLowerLimit limit => [(.clusterQmaxLowerLimit, limit.setWidth 32)]
  | .setTagBorderClusters tag => [(.tagBorderClusters, tag)]
  | .setCorrectEdgeClusters value => [(.correctEdgeClusters, value)]
  | .setTagDeconvolutedClusters tag => [(.tagDeconvolutedClusters, tag)]

/-- The value that a sequence of calls is to set a field to last. -/
def lastSet (f : FcfField) (ops : List FcfOp) : Option Word32 := lastValue f (ops.flatMap gives)

/-- The calls that set the tagging. -/
def setsTag : FcfOp → Bool
  | .setSplitClusterTagging _ | .setTagDeconvolutedClusters _ => true
  | _ => false

def lastTagCall (ops : List FcfOp) : Option FcfOp := (ops.filter setsTag).getLast?

/-- Each getter returns the value set last, cut to its documented width, and the
errors are as before. -/
structure SettingsRead (l : Link) (ops : List FcfOp) (b b' : Bar) : Prop where
  getters : ∀ f, f ≠ .errorClear → read l b' f =
    (lastSet f ops).elim (read l b f) fun v => getField v 0 (documentedWidth f)
  splitClusterTagging : splitClusterTagging l b' = read l b' .tagDeconvolutedClusters
  errorMask : errorMask l b' = errorMask l b

/-! ## What the calls do -/

/-- What a call does set. -/
def does : FcfOp → List (FcfField × Word32)
  | .setSplitClusterTagging _ => [(.tagDeconvolutedClusters, 1)]
  | op => gives op

theorem ddlAddr_injective (l : Link) : Function.Injective l.ddlAddr := by
  intro addr addr' same
  by_contra ne
  exact Link.ddlAddr_ne ne same

/-- The fields on the whole BAR. -/
def barLayout (l : Link) : RegLayout FcfField Word64 32 :=
  fcfLayout.mapAddr l.ddlAddr (ddlAddr_injective l)

theorem updateDdlReg_words (l : Link) (addr : Word32) (change : Word32 → Word32) (b : Bar) :
    (l.updateDdlReg addr change b).words =
      Function.update b.words (l.ddlAddr addr) (change (b.words (l.ddlAddr addr))) := by
  unfold Link.updateDdlReg
  rw [Link.setDdlReg_words, Link.ddlReg_words, Link.ddlReg_fst]

/-- One field, under a mask as wide as it is. -/
theorem putMasked_words (l : Link) (f : FcfField) {mask : Word32}
    (ones : mask = BitVec.ofNat 32 (2 ^ f.place.width - 1)) (value : Word32) (b : Bar) :
    (l.updateDdlReg f.place.addr (putMasked f.place.low mask value) b).words =
      (barLayout l).setAll [(f, value)] b.words := by
  rw [updateDdlReg_words, ones, RegLayout.setAll_single]
  rfl

theorem clearErrors_words (l : Link) (b : Bar) :
    (clearErrors l b).words =
      (barLayout l).setAll [(.errorClear, 1), (.errorClear, 0)] b.words := by
  have place : (barLayout l).place .errorClear = ⟨l.ddlAddr Reg.fcfCtrl, 1, 1⟩ := rfl
  have raise (w : Word32) : w ||| (1#32 <<< 1) = setField w 1 1 1 := or_eq_setField w 1 1
  have lower (w : Word32) : w &&& ~~~(1#32 <<< 1) = setField w 0 1 1 := and_not_eq_setField w 1 1
  rw [clearErrors, Link.setDdlReg_words, Link.setDdlReg_words, Function.update_idem,
    Link.ddlReg_words, Link.ddlReg_fst, raise, lower]
  simp only [RegLayout.setAll, List.foldl_cons, List.foldl_nil, place, RegField.set,
    Function.update_self, Function.update_idem]

theorem run_words (l : Link) (op : FcfOp) (b : Bar) :
    (run l op b).words = (barLayout l).setAll (does op) b.words := by
  cases op with
  | setReset val => exact putMasked_words l .reset rfl val b
  | setEnable val => exact putMasked_words l .enable rfl val b
  | setBypass val => exact putMasked_words l .bypass rfl val b
  | setState reset enable =>
      have both : does (.setState reset enable) = [(.reset, reset)] ++ [(.enable, enable)] := rfl
      rw [both, RegLayout.setAll_append, ← putMasked_words l .reset rfl reset b]
      exact putMasked_words l .enable rfl enable _
  | setSinglePadSuppression v => exact putMasked_words l .singlePadSuppression rfl v b
  | setBypassMerger v => exact putMasked_words l .bypassMerger rfl v b
  | setDeconvPad v => exact putMasked_words l .deconvPad rfl v b
  | setMergerAlgorithm mode => exact putMasked_words l .mergerAlgorithm rfl mode b
  | setBranchOverride ovrd => exact putMasked_words l .branchOverride rfl ovrd b
  | setSplitClusterTagging tag => exact putMasked_words l .tagDeconvolutedClusters rfl 1 b
  | setSingleSeqLimit v => exact putMasked_words l .singleSeqLimit rfl _ b
  | setClusterLowerLimit v => exact putMasked_words l .clusterLowerLimit rfl _ b
  | setMergerDistance v => exact putMasked_words l .mergerDistance rfl _ b
  | setChargeTolerance v => exact putMasked_words l .chargeTolerance rfl _ b
  | clearErrors => exact clearErrors_words l b
  | setNoiseSuppression v => exact putMasked_words l .noiseSuppression rfl _ b
  | setNoiseSuppressionMinimum v => exact putMasked_words l .noiseSuppressionMinimum rfl _ b
  | setNoiseSuppressionNeighbor v => exact putMasked_words l .noiseSuppressionNeighbor rfl _ b
  | setClusterQmaxLowerLimit v => exact putMasked_words l .clusterQmaxLowerLimit rfl _ b
  | setTagBorderClusters tag => exact putMasked_words l .tagBorderClusters rfl tag b
  | setCorrectEdgeClusters v => exact putMasked_words l .correctEdgeClusters rfl v b
  | setTagDeconvolutedClusters tag => exact putMasked_words l .tagDeconvolutedClusters rfl tag b

theorem runOps_words (l : Link) (ops : List FcfOp) (b : Bar) :
    (runOps l ops b).words = (barLayout l).setAll (ops.flatMap does) b.words :=
  (barLayout l).foldl_words Bar.words (fun _ => True)
    (fun b op _ => ⟨run_words l op b, trivial⟩) trivial ops

/-! ## What the getters return -/

/-- A field, under a mask as wide as it is. -/
theorem getMasked_eq (l : Link) (b : Bar) (f : FcfField) {mask : Word32}
    (ones : mask = BitVec.ofNat 32 (2 ^ f.place.width - 1)) :
    getMasked l f.place.addr f.place.low mask b = ((barLayout l).place f).get b.words := by
  rw [getMasked, Link.ddlReg_fst, ones]
  rfl

theorem getMasked_bool (l : Link) (b : Bar) (f : FcfField) (single : f.place.width = 1) :
    (if getMasked l f.place.addr f.place.low 1 b == 1 then 1 else 0) =
      ((barLayout l).place f).get b.words := by
  have ones : (1 : Word32) = BitVec.ofNat 32 (2 ^ f.place.width - 1) := by
    rw [single]
    rfl
  have value : ((barLayout l).place f).get b.words =
      getField (b.words (l.ddlAddr f.place.addr)) f.place.low 1 := by
    rw [← single]
    rfl
  rw [getMasked_eq l b f ones, value, Link.bool_getField]

/-- The same through a narrower type. -/
theorem getMasked_narrow (l : Link) (b : Bar) (f : FcfField) {mask : Word32}
    (ones : mask = BitVec.ofNat 32 (2 ^ f.place.width - 1)) {n : Nat} (fits : f.place.width ≤ n) :
    ((getMasked l f.place.addr f.place.low mask b).setWidth n).setWidth 32 =
      ((barLayout l).place f).get b.words := by
  rw [getMasked_eq l b f ones]
  exact setWidth_setWidth_getField _ _ fits

/-- Each getter reads its field. -/
theorem read_eq (l : Link) (b : Bar) (f : FcfField) :
    read l b f = ((barLayout l).place f).get b.words := by
  cases f with
  | enable => exact getMasked_bool l b .enable rfl
  | errorClear => exact getMasked_eq l b .errorClear rfl
  | singlePadSuppression => exact getMasked_eq l b .singlePadSuppression rfl
  | bypassMerger => exact getMasked_eq l b .bypassMerger rfl
  | deconvPad => exact getMasked_eq l b .deconvPad rfl
  | mergerAlgorithm => exact getMasked_eq l b .mergerAlgorithm rfl
  | errorMask => exact getMasked_narrow l b .errorMask rfl (by decide)
  | bypass => exact getMasked_bool l b .bypass rfl
  | branchOverride => exact getMasked_eq l b .branchOverride rfl
  | reset => exact getMasked_bool l b .reset rfl
  | tagDeconvolutedClusters => exact getMasked_eq l b .tagDeconvolutedClusters rfl
  | noiseSuppressionNeighbor =>
      exact getMasked_narrow l b .noiseSuppressionNeighbor rfl (by decide)
  | tagBorderClusters => exact getMasked_eq l b .tagBorderClusters rfl
  | correctEdgeClusters => exact getMasked_eq l b .correctEdgeClusters rfl
  | clusterLowerLimit => exact getMasked_narrow l b .clusterLowerLimit rfl (by decide)
  | singleSeqLimit => exact getMasked_narrow l b .singleSeqLimit rfl (by decide)
  | mergerDistance => exact getMasked_narrow l b .mergerDistance rfl (by decide)
  | chargeTolerance => exact getMasked_narrow l b .chargeTolerance rfl (by decide)
  | clusterQmaxLowerLimit => exact getMasked_narrow l b .clusterQmaxLowerLimit rfl (by decide)
  | noiseSuppressionMinimum => exact getMasked_narrow l b .noiseSuppressionMinimum rfl (by decide)
  | noiseSuppression => exact getMasked_narrow l b .noiseSuppression rfl (by decide)

/-- Each field ends with what was put in last. -/
theorem read_runOps (l : Link) (ops : List FcfOp) (b : Bar) (f : FcfField) :
    read l (runOps l ops b) f =
      (lastValue f (ops.flatMap does)).elim (read l b f) fun v => getField v 0 f.place.width := by
  rw [read_eq, read_eq, runOps_words]
  exact RegLayout.get_setAll ..

/-- Only the tag is not set as given. -/
theorem lastValue_does {f : FcfField} (other : f ≠ .tagDeconvolutedClusters) (ops : List FcfOp) :
    lastValue f (ops.flatMap does) = lastSet f ops := by
  have same (op : FcfOp) : (does op).filter (fun e => e.1 = f) =
      (gives op).filter fun e => e.1 = f := by
    cases op with
    | setSplitClusterTagging tag =>
        rw [does, gives, List.filter_cons_of_neg (by simpa using Ne.symm other),
          List.filter_cons_of_neg (by simpa using Ne.symm other)]
    | _ => rfl
  unfold lastSet lastValue
  rw [List.filter_flatMap, List.filter_flatMap]
  congr 3
  funext op
  exact same op

/-- What a call of a tag setter is given, and what it puts in. -/
def tagGiven : FcfOp → Word32
  | .setSplitClusterTagging tag => getField tag 0 1
  | .setTagDeconvolutedClusters tag => tag
  | _ => 0

def tagPut : FcfOp → Word32
  | .setSplitClusterTagging _ => 1
  | op => tagGiven op

theorem lastSet_tag (ops : List FcfOp) :
    lastSet .tagDeconvolutedClusters ops = (lastTagCall ops).map tagGiven :=
  lastValue_flatMap setsTag tagGiven (fun op => by cases op <;> rfl) ops

theorem lastValue_does_tag (ops : List FcfOp) :
    lastValue .tagDeconvolutedClusters (ops.flatMap does) = (lastTagCall ops).map tagPut :=
  lastValue_flatMap setsTag tagPut (fun op => by cases op <;> rfl) ops

/-- No call gives the errors a value. -/
theorem errorMask_runOps (l : Link) (ops : List FcfOp) (b : Bar) :
    errorMask l (runOps l ops b) = errorMask l b := by
  have none : lastValue .errorMask (ops.flatMap does) = none := by
    rw [lastValue_flatMap (fun _ => false) (fun _ => 0) (fun op => by cases op <;> rfl),
      List.filter_false]
    rfl
  have same := read_runOps l ops b .errorMask
  rw [none] at same
  have byte := congrArg (BitVec.setWidth 8) same
  simpa only [read, Option.elim, BitVec.setWidth_setWidth_of_le _ (show 8 ≤ 32 by omega),
    BitVec.setWidth_eq] using byte

theorem getter_tag_iff (l : Link) (ops : List FcfOp) (b : Bar) :
    read l (runOps l ops b) .tagDeconvolutedClusters =
        (lastSet .tagDeconvolutedClusters ops).elim (read l b .tagDeconvolutedClusters)
          (fun v => getField v 0 2) ↔
      ∀ tag, lastTagCall ops = some (.setSplitClusterTagging tag) → tag.getLsbD 0 = true := by
  rw [read_runOps, lastValue_does_tag, lastSet_tag]
  cases last : lastTagCall ops with
  | none => simp
  | some op =>
      have setter : setsTag op = true := List.of_mem_filter (List.mem_of_getLast? last)
      show getField (tagPut op) 0 2 = getField (tagGiven op) 0 2 ↔ _
      cases op with
      | setTagDeconvolutedClusters tag => simp [tagPut]
      | setSplitClusterTagging tag =>
          have even : getField tag 0 1 = if tag.getLsbD 0 then 1 else 0 := by
            have bit : getField tag 0 1 = (BitVec.ofBool (tag.getLsbD 0)).setWidth 32 :=
              BitVec.and_one_eq_setWidth_ofBool_getLsbD
            rw [bit]
            cases tag.getLsbD 0 <;> rfl
          rw [tagPut, tagGiven, even]
          simp only [Option.some.injEq, FcfOp.setSplitClusterTagging.injEq, forall_eq']
          cases tag.getLsbD 0 <;> decide
      | _ => cases setter

theorem getter_neighbor_iff (l : Link) (ops : List FcfOp) (b : Bar) :
    read l (runOps l ops b) .noiseSuppressionNeighbor =
        (lastSet .noiseSuppressionNeighbor ops).elim (read l b .noiseSuppressionNeighbor)
          (fun v => getField v 0 4) ↔
      ∀ v ∈ lastSet .noiseSuppressionNeighbor ops, v.getLsbD 2 = false ∧ v.getLsbD 3 = false := by
  rw [read_runOps, lastValue_does (by decide)]
  cases lastSet .noiseSuppressionNeighbor ops with
  | none => simp
  | some v =>
      simp only [Option.mem_some_iff, forall_eq']
      show getField v 0 2 = getField v 0 4 ↔ _
      constructor
      · intro same
        have bit (i : Nat) := congrArg (fun w => w.getLsbD i) same
        simp only [getLsbD_getField, Nat.zero_add] at bit
        exact ⟨(bit 2).symm, (bit 3).symm⟩
      · rintro ⟨bit2, bit3⟩
        apply BitVec.eq_of_getLsbD_eq
        intro i _
        rw [getLsbD_getField, getLsbD_getField, Nat.zero_add]
        have place : i < 2 ∨ i = 2 ∨ i = 3 ∨ 4 ≤ i := by omega
        rcases place with low | rfl | rfl | high
        · rw [decide_eq_true low, decide_eq_true (by omega)]
        · rw [bit2, Bool.and_false, Bool.and_false]
        · rw [bit3, Bool.and_false, Bool.and_false]
        · rw [decide_eq_false (by omega), decide_eq_false (by omega)]

/-- **Cluster finder settings.** After every sequence of calls the getters return
what was set last, exactly when the last tag, if it is a legacy one, is odd, and
the last noise suppression neighbor has nothing in bits 2 and 3. -/
theorem settingsRead_iff (l : Link) (ops : List FcfOp) (b : Bar) :
    SettingsRead l ops b (runOps l ops b) ↔
      (∀ tag, lastTagCall ops = some (.setSplitClusterTagging tag) → tag.getLsbD 0 = true) ∧
      ∀ v ∈ lastSet .noiseSuppressionNeighbor ops,
        v.getLsbD 2 = false ∧ v.getLsbD 3 = false := by
  rw [← getter_tag_iff l ops b, ← getter_neighbor_iff l ops b]
  constructor
  · intro settings
    exact ⟨settings.getters .tagDeconvolutedClusters (by decide),
      settings.getters .noiseSuppressionNeighbor (by decide)⟩
  · rintro ⟨tag, neighbor⟩
    refine ⟨?_, rfl, ?_⟩
    · intro f _
      cases f with
      | tagDeconvolutedClusters => exact tag
      | noiseSuppressionNeighbor => exact neighbor
      | _ =>
          rw [read_runOps, lastValue_does (by decide)]
          rfl
    · exact errorMask_runOps l ops b

/-- Tagging is disabled and is enabled after that. -/
theorem not_settingsRead_disabled :
    let l : Link := ⟨0⟩
    let b : Bar := ⟨fun _ => 0, []⟩
    ¬SettingsRead l [.setSplitClusterTagging 0] b (runOps l [.setSplitClusterTagging 0] b) := by
  intro l b settings
  have tag := settings.getters .tagDeconvolutedClusters (by decide)
  revert tag
  decide

end FastClusterFinder

end Librorc
