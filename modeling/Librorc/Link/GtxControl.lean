import Librorc.Link.Gtx

/-!
# Sequences of transceiver settings

Nine setters share GTX_ASYNC_CFG and GTX_CTRL. Seven of them leave in the
register what their getters are to read. `setTxPostEmph` writes four of the five
bits that `getTxPostEmph` reads, and `setDfeTapOverride` copies bit 0 of GTX_CTRL.
-/

namespace Librorc.Gtx

open Librorc.Lib

/-! ## Calls and fields -/

/-- The setters. -/
inductive ControlOp
  | setTxDiffCtrl (value : Word32)
  | setTxPreEmph (value : Word32)
  | setTxPostEmph (value : Word32)
  | setRxEqMix (value : Word32)
  | setLoopback (value : Word32)
  | setReset (value : Word32)
  | setRxReset (value : Word32)
  | setTxReset (value : Word32)
  | setDfeTapOverride (ovrd : Word32)

def ControlOp.run (l : Link) : ControlOp → Bar → Bar
  | .setTxDiffCtrl value => Gtx.setTxDiffCtrl l Bar.storage value
  | .setTxPreEmph value => Gtx.setTxPreEmph l Bar.storage value
  | .setTxPostEmph value => Gtx.setTxPostEmph l Bar.storage value
  | .setRxEqMix value => Gtx.setRxEqMix l Bar.storage value
  | .setLoopback value => Gtx.setLoopback l Bar.storage value
  | .setReset value => Gtx.setReset l Bar.storage value
  | .setRxReset value => Gtx.setRxReset l Bar.storage value
  | .setTxReset value => Gtx.setTxReset l Bar.storage value
  | .setDfeTapOverride ovrd => Gtx.setDfeTapOverride l Bar.storage ovrd

/-- A sequence of calls. -/
def runOps (l : Link) (ops : List ControlOp) (b : Bar) : Bar :=
  ops.foldl (fun b op => op.run l b) b

inductive ControlReg
  | asyncCfg
  | ctrl
deriving DecidableEq

def ControlReg.addr (l : Link) : ControlReg → Word64
  | .asyncCfg => l.pciAddr Reg.gtxAsyncCfg
  | .ctrl => l.gtxAddr Reg.gtxCtrl

theorem ControlReg.addr_injective (l : Link) : Function.Injective (ControlReg.addr l) := by
  have differ : l.pciAddr Reg.gtxAsyncCfg ≠ l.gtxAddr Reg.gtxCtrl := by
    unfold Link.pciAddr Link.gtxAddr Reg.gtxAsyncCfg Reg.gtxCtrl regfileGtxSel
    bv_omega
  intro r r' same
  cases r <;> cases r'
  · rfl
  · exact absurd same differ
  · exact absurd same.symm differ
  · rfl

/-- What the getters read. -/
inductive ControlField
  | reset
  | rxReset
  | txReset
  | loopback
  | txDiffCtrl
  | txPreEmph
  | txPostEmph
  | rxEqMix
  | dfeTapOverride
deriving DecidableEq

namespace ControlField

def all : List ControlField :=
  [reset, rxReset, txReset, loopback, txDiffCtrl, txPreEmph, txPostEmph, rxEqMix, dfeTapOverride]

theorem mem_all (f : ControlField) : f ∈ all := by cases f <;> decide

/-- The place of a field; the setter of TX post-emphasis and its getter do not
agree on `postEmphWidth`. -/
def place (postEmphWidth : Nat) : ControlField → RegField ControlReg
  | .reset => ⟨.asyncCfg, gtxAsynccfgReset, 1⟩
  | .rxReset => ⟨.asyncCfg, gtxAsynccfgRxreset, 1⟩
  | .txReset => ⟨.asyncCfg, gtxAsynccfgTxreset, 1⟩
  | .loopback => ⟨.asyncCfg, 9, 3⟩
  | .txDiffCtrl => ⟨.asyncCfg, 16, 4⟩
  | .txPreEmph => ⟨.asyncCfg, 20, 4⟩
  | .txPostEmph => ⟨.asyncCfg, 24, postEmphWidth⟩
  | .rxEqMix => ⟨.asyncCfg, 29, 3⟩
  | .dfeTapOverride => ⟨.ctrl, 4, 1⟩

/-- The value of a field, by its getter. `getReset` returns three of them. -/
def read (l : Link) (b : Bar) : ControlField → Word32
  | .reset => (getReset l Bar.storage b).1 &&& 1
  | .rxReset => (getRxReset l Bar.storage b).1
  | .txReset => (getTxReset l Bar.storage b).1
  | .loopback => (getLoopback l Bar.storage b).1
  | .txDiffCtrl => (getTxDiffCtrl l Bar.storage b).1
  | .txPreEmph => (getTxPreEmph l Bar.storage b).1
  | .txPostEmph => (getTxPostEmph l Bar.storage b).1
  | .rxEqMix => (getRxEqMix l Bar.storage b).1
  | .dfeTapOverride => if (Gtx.dfeTapOverride l Bar.storage b).1 then 1 else 0

end ControlField

/-- The fields as the getters read them. -/
def readLayout : RegLayout ControlField ControlReg 32 where
  place := ControlField.place 5
  fits f := by cases f <;> decide
  apart _ _ := RegLayout.apart_of_pairwise ControlField.mem_all (by decide)

/-- The fields as the setters write them. -/
def writtenLayout : RegLayout ControlField ControlReg 32 where
  place := ControlField.place 4
  fits f := by cases f <;> decide
  apart _ _ := RegLayout.apart_of_pairwise ControlField.mem_all (by decide)

theorem written_within_read (f : ControlField) :
    (writtenLayout.place f).addr = (readLayout.place f).addr ∧
      (writtenLayout.place f).low = (readLayout.place f).low ∧
        (writtenLayout.place f).width ≤ (readLayout.place f).width := by
  cases f <;> decide

/-- What a call is to set. -/
def ControlOp.gives : ControlOp → List (ControlField × Word32)
  | .setTxDiffCtrl value => [(.txDiffCtrl, value)]
  | .setTxPreEmph value => [(.txPreEmph, value)]
  | .setTxPostEmph value => [(.txPostEmph, value)]
  | .setRxEqMix value => [(.rxEqMix, value)]
  | .setLoopback value => [(.loopback, value)]
  | .setReset value => [(.reset, value), (.rxReset, value >>> 1), (.txReset, value >>> 2)]
  | .setRxReset value => [(.rxReset, value)]
  | .setTxReset value => [(.txReset, value)]
  | .setDfeTapOverride ovrd => [(.dfeTapOverride, ovrd)]

/-- The value that a sequence of calls is to set a field to last. -/
def lastSet (f : ControlField) (ops : List ControlOp) : Option Word32 :=
  lastValue f (ops.flatMap ControlOp.gives)

/-- Between `b` and `b'` each field got its last value, cut to the bits its getter
reads, and nothing else changed. -/
structure SettingsKept (l : Link) (ops : List ControlOp) (b b' : Bar) : Prop where
  getters : ∀ f : ControlField, f.read l b' =
    (lastSet f ops).elim (f.read l b) fun v => getField v 0 (readLayout.place f).width
  getReset : (getReset l Bar.storage b').1 = ControlField.reset.read l b' |||
    (ControlField.rxReset.read l b' <<< 1) ||| (ControlField.txReset.read l b' <<< 2)
  others : ∀ a i, (readLayout.mapAddr (ControlReg.addr l) (ControlReg.addr_injective l)).Free a i →
    (b'.words a).getLsbD i = (b.words a).getLsbD i

/-! ## What the setters do -/

/-- What is taken for a value: the override takes bit 0 of GTX_CTRL. -/
def taken (bit0 : Word32) : ControlField → Word32 → Word32
  | .dfeTapOverride, _ => bit0
  | _, value => value

/-- What a call does set. -/
def ControlOp.does (bit0 : Word32) (op : ControlOp) : List (ControlField × Word32) :=
  op.gives.map fun e => (e.1, taken bit0 e.1 e.2)

/-- The layout of the setters, on the whole BAR. -/
def barLayout (l : Link) : RegLayout ControlField Word64 32 :=
  writtenLayout.mapAddr (ControlReg.addr l) (ControlReg.addr_injective l)

theorem updateAsyncCfg_words (l : Link) (change : Word32 → Word32) (b : Bar) :
    (updateAsyncCfg l Bar.storage change b).words =
      Function.update b.words (l.pciAddr Reg.gtxAsyncCfg)
        (change (b.words (l.pciAddr Reg.gtxAsyncCfg))) := rfl

/-- A field of GTX_ASYNC_CFG is set in that register. -/
theorem setAll_asyncCfg (l : Link) {f : ControlField}
    (inCfg : (writtenLayout.place f).addr = .asyncCfg) (v w : Word32) (words : Word64 → Word32) :
    (barLayout l).setAll [(f, v)] (Function.update words (l.pciAddr Reg.gtxAsyncCfg) w) =
      Function.update words (l.pciAddr Reg.gtxAsyncCfg)
        (setField w v (writtenLayout.place f).low (writtenLayout.place f).width) := by
  have place : ((barLayout l).place f).addr = l.pciAddr Reg.gtxAsyncCfg :=
    congrArg (ControlReg.addr l) inCfg
  rw [← place]
  exact RegField.set_update ((barLayout l).place f) v w words

/-- One field, under a mask as wide as it is. -/
theorem putMasked_words (l : Link) (f : ControlField)
    (inCfg : (writtenLayout.place f).addr = .asyncCfg) {mask : Word32}
    (ones : mask = BitVec.ofNat 32 (2 ^ (writtenLayout.place f).width - 1)) (value : Word32)
    (b : Bar) :
    (updateAsyncCfg l Bar.storage (Link.putMasked (writtenLayout.place f).low mask value) b).words =
      (barLayout l).setAll [(f, value)] b.words := by
  have set := setAll_asyncCfg l inCfg value (b.words (l.pciAddr Reg.gtxAsyncCfg)) b.words
  rw [Function.update_eq_self] at set
  rw [updateAsyncCfg_words, ones, set]
  rfl

/-- Clearing three bits and then setting them is setting one after the other. -/
theorem resetBits_eq (value w : Word32) :
    (w &&& ~~~((1#32 <<< gtxAsynccfgReset) ||| (1#32 <<< gtxAsynccfgRxreset) |||
        (1#32 <<< gtxAsynccfgTxreset))) |||
      ((value &&& 1) <<< gtxAsynccfgReset) ||| (((value >>> 1) &&& 1) <<< gtxAsynccfgRxreset) |||
      (((value >>> 2) &&& 1) <<< gtxAsynccfgTxreset) =
    setField (setField (setField w value 0 1) (value >>> 1) 1 1) (value >>> 2) 3 1 := by
  have one : (1 : Word32) = 1#32 := rfl
  apply BitVec.eq_of_getLsbD_eq
  intro i inside
  simp only [getLsbD_setField _ _ _ _ inside, gtxAsynccfgReset, gtxAsynccfgRxreset,
    gtxAsynccfgTxreset, one, BitVec.getLsbD_or, BitVec.getLsbD_and, BitVec.getLsbD_not,
    BitVec.getLsbD_shiftLeft, BitVec.getLsbD_one, BitVec.getLsbD_ushiftRight, inside, decide_true,
    Bool.true_and]
  by_cases reset : i = 0
  · subst reset
    simp
  · by_cases rx : i = 1
    · subst rx
      simp
    · by_cases tx : i = 3
      · subst tx
        simp
      · have notReset : ¬(0 ≤ i ∧ i < 0 + 1) := by omega
        have notRx : ¬(1 ≤ i ∧ i < 1 + 1) := by omega
        have notTx : ¬(3 ≤ i ∧ i < 3 + 1) := by omega
        have pastRx : ¬i - 1 = 0 := by omega
        have pastTx : i < 3 ∨ ¬i - 3 = 0 := by omega
        rw [if_neg notTx, if_neg notRx, if_neg notReset]
        rcases pastTx with below | above
        · simp [reset, pastRx, below]
        · simp [reset, pastRx, above]

/-- Three bits at once. -/
theorem setReset_words (l : Link) (value : Word32) (b : Bar) :
    (setReset l Bar.storage value b).words =
      (barLayout l).setAll [(.reset, value), (.rxReset, value >>> 1), (.txReset, value >>> 2)]
        b.words := by
  have fields : [(ControlField.reset, value), (.rxReset, value >>> 1), (.txReset, value >>> 2)] =
      [(ControlField.reset, value)] ++
        ([(ControlField.rxReset, value >>> 1)] ++ [(ControlField.txReset, value >>> 2)]) := rfl
  have change : (setReset l Bar.storage value b).words = Function.update b.words
      (l.pciAddr Reg.gtxAsyncCfg) (setField (setField (setField
        (b.words (l.pciAddr Reg.gtxAsyncCfg)) value 0 1) (value >>> 1) 1 1) (value >>> 2) 3 1) := by
    rw [← resetBits_eq]
    exact updateAsyncCfg_words ..
  have reset := setAll_asyncCfg l (f := .reset) rfl value
    (b.words (l.pciAddr Reg.gtxAsyncCfg)) b.words
  rw [Function.update_eq_self] at reset
  rw [change, fields, RegLayout.setAll_append, RegLayout.setAll_append, reset,
    setAll_asyncCfg l rfl, setAll_asyncCfg l rfl]
  rfl

/-- The bit that is put in is bit 0 of the register. -/
def copyBit0 (w : Word32) : Word32 :=
  (w &&& ~~~(1#32 <<< 4)) ||| (((w &&& ~~~(1#32 <<< 4)) &&& 1) <<< 4)

theorem copyBit0_eq (w : Word32) : copyBit0 w = setField w w 4 1 := by
  have kept : ~~~(1#32 <<< 4) &&& (1 : Word32) = 1 := by decide
  rw [copyBit0, BitVec.and_assoc w, kept]
  rfl

theorem setDfeTapOverride_words (l : Link) (ovrd : Word32) (b : Bar) :
    (setDfeTapOverride l Bar.storage ovrd b).words =
      (barLayout l).setAll
        [(.dfeTapOverride, getField (b.words (l.gtxAddr Reg.gtxCtrl)) 0 1)] b.words := by
  have changed : (setDfeTapOverride l Bar.storage ovrd b).words =
      Function.update b.words (l.gtxAddr Reg.gtxCtrl)
        (copyBit0 (b.words (l.gtxAddr Reg.gtxCtrl))) := by
    simp only [setDfeTapOverride, copyBit0, Link.setGtxReg_storage_words, Link.gtxReg_storage_fst,
      Link.gtxReg_storage_words]
  have place : (barLayout l).place .dfeTapOverride = ⟨l.gtxAddr Reg.gtxCtrl, 4, 1⟩ := rfl
  rw [changed, copyBit0_eq, RegLayout.setAll_single, place, setField_getField]

theorem run_words (l : Link) (op : ControlOp) (b : Bar) :
    (op.run l b).words =
      (barLayout l).setAll (op.does (getField (b.words (l.gtxAddr Reg.gtxCtrl)) 0 1)) b.words := by
  cases op with
  | setReset value => exact setReset_words l value b
  | setDfeTapOverride ovrd => exact setDfeTapOverride_words l ovrd b
  | setTxDiffCtrl value => exact putMasked_words l .txDiffCtrl rfl rfl value b
  | setTxPreEmph value => exact putMasked_words l .txPreEmph rfl rfl value b
  | setTxPostEmph value => exact putMasked_words l .txPostEmph rfl rfl value b
  | setRxEqMix value => exact putMasked_words l .rxEqMix rfl rfl value b
  | setLoopback value => exact putMasked_words l .loopback rfl rfl value b
  | setRxReset value => exact putMasked_words l .rxReset rfl rfl value b
  | setTxReset value => exact putMasked_words l .txReset rfl rfl value b

/-! ## What a sequence does -/

/-- Bit 0 of GTX_CTRL and bit 28 of GTX_ASYNC_CFG are never written. -/
theorem free_ctrl_0 (l : Link) : (barLayout l).Free (l.gtxAddr Reg.gtxCtrl) 0 :=
  RegLayout.free_mapAddr (a := ControlReg.ctrl) (ControlReg.addr_injective l)
    fun f => by cases f <;> decide

theorem free_asyncCfg_28 (l : Link) : (barLayout l).Free (l.pciAddr Reg.gtxAsyncCfg) 28 :=
  RegLayout.free_mapAddr (a := ControlReg.asyncCfg) (ControlReg.addr_injective l)
    fun f => by cases f <;> decide

/-- Bit 0 of GTX_CTRL stays, and is taken by every call. -/
theorem runOps_words (l : Link) (ops : List ControlOp) (b : Bar) :
    (runOps l ops b).words = (barLayout l).setAll
      (ops.flatMap (ControlOp.does (getField (b.words (l.gtxAddr Reg.gtxCtrl)) 0 1))) b.words := by
  refine (barLayout l).foldl_words Bar.words
    (fun b' => getField (b'.words (l.gtxAddr Reg.gtxCtrl)) 0 1 =
      getField (b.words (l.gtxAddr Reg.gtxCtrl)) 0 1) ?_ rfl ops
  intro b' op bit0
  have set := run_words l op b'
  rw [← bit0]
  refine ⟨set, ?_⟩
  rw [getField_one_eq_iff, set, RegLayout.getLsbD_setAll _ (free_ctrl_0 l)]

/-- Each field of the layout ends with the value taken for it last. -/
theorem get_runOps (l : Link) (ops : List ControlOp) (b : Bar) (f : ControlField) :
    ((barLayout l).place f).get (runOps l ops b).words =
      (lastSet f ops).elim (((barLayout l).place f).get b.words) fun v =>
        getField (taken (getField (b.words (l.gtxAddr Reg.gtxCtrl)) 0 1) f v) 0
          (writtenLayout.place f).width := by
  have does : ops.flatMap
      (ControlOp.does (getField (b.words (l.gtxAddr Reg.gtxCtrl)) 0 1)) =
      (ops.flatMap ControlOp.gives).map fun e =>
        (e.1, taken (getField (b.words (l.gtxAddr Reg.gtxCtrl)) 0 1) e.1 e.2) :=
    List.map_flatMap.symm
  rw [runOps_words, RegLayout.get_setAll, does, lastValue_map, lastSet]
  cases lastValue f (ops.flatMap ControlOp.gives) <;> rfl

/-! ## What the getters return -/

theorem getReset_eq (l : Link) (b : Bar) :
    (getReset l Bar.storage b).1 =
      getField (b.words (l.pciAddr Reg.gtxAsyncCfg)) gtxAsynccfgReset 1 |||
        (getField (b.words (l.pciAddr Reg.gtxAsyncCfg)) gtxAsynccfgRxreset 1 <<< 1) |||
        (getField (b.words (l.pciAddr Reg.gtxAsyncCfg)) gtxAsynccfgTxreset 1 <<< 2) := rfl

/-- The lowest of three bits. -/
theorem lowest_of_three (x y z : Word32) :
    (getField x 0 1 ||| (y <<< 1) ||| (z <<< 2)) &&& 1 = getField x 0 1 := by
  have one : (1 : Word32) = 1#32 := rfl
  apply BitVec.eq_of_getLsbD_eq
  intro i inside
  simp only [one, BitVec.getLsbD_and, BitVec.getLsbD_or, BitVec.getLsbD_shiftLeft,
    BitVec.getLsbD_one, getLsbD_getField, inside, decide_true, Bool.true_and]
  by_cases lowest : i = 0
  · subst lowest
    simp
  · have above : ¬i < 1 := by omega
    simp [lowest]

/-- As wide as it is read. -/
theorem read_eq (l : Link) (b : Bar) (f : ControlField) :
    f.read l b = getField (b.words ((readLayout.place f).addr.addr l)) (readLayout.place f).low
      (readLayout.place f).width := by
  cases f with
  | reset =>
      show (getReset l Bar.storage b).1 &&& 1 = _
      rw [getReset_eq]
      exact lowest_of_three ..
  | dfeTapOverride => exact Link.bool_getField (b.words (l.gtxAddr Reg.gtxCtrl)) 4
  | rxReset => rfl
  | txReset => rfl
  | loopback => rfl
  | txDiffCtrl => rfl
  | txPreEmph => rfl
  | txPostEmph => rfl
  | rxEqMix => rfl

/-- The fields that are written as wide as they are read. -/
theorem read_runOps (l : Link) (ops : List ControlOp) (b : Bar) {f : ControlField}
    (wide : f ≠ .txPostEmph) :
    f.read l (runOps l ops b) = (lastSet f ops).elim (f.read l b) fun v =>
      getField (taken (getField (b.words (l.gtxAddr Reg.gtxCtrl)) 0 1) f v) 0
        (readLayout.place f).width := by
  have same : writtenLayout.place f = readLayout.place f := by
    cases f with
    | txPostEmph => exact absurd rfl wide
    | _ => rfl
  rw [read_eq, read_eq, ← same]
  exact get_runOps l ops b f

/-- The override is right if the value given last has bit 0 of GTX_CTRL. -/
theorem read_dfeTapOverride_iff (l : Link) (ops : List ControlOp) (b : Bar) :
    ControlField.dfeTapOverride.read l (runOps l ops b) =
        (lastSet .dfeTapOverride ops).elim (ControlField.dfeTapOverride.read l b)
          (fun v => getField v 0 1) ↔
      ∀ v ∈ lastSet .dfeTapOverride ops,
        v.getLsbD 0 = (b.words (l.gtxAddr Reg.gtxCtrl)).getLsbD 0 := by
  rw [read_runOps l ops b (by decide)]
  cases lastSet .dfeTapOverride ops with
  | none => simp
  | some v =>
      show getField (getField _ 0 1) 0 1 = getField v 0 1 ↔ _
      rw [getField_getField, getField_one_eq_iff]
      simp only [Option.mem_some_iff, forall_eq']
      exact eq_comm

/-- Post-emphasis is right if the value given last has the bit that is not written. -/
theorem read_txPostEmph_iff (l : Link) (ops : List ControlOp) (b : Bar) :
    ControlField.txPostEmph.read l (runOps l ops b) =
        (lastSet .txPostEmph ops).elim (ControlField.txPostEmph.read l b)
          (fun v => getField v 0 5) ↔
      ∀ v ∈ lastSet .txPostEmph ops,
        v.getLsbD 4 = (b.words (l.pciAddr Reg.gtxAsyncCfg)).getLsbD 28 := by
  have written := get_runOps l ops b .txPostEmph
  have kept : ((runOps l ops b).words (l.pciAddr Reg.gtxAsyncCfg)).getLsbD 28 =
      (b.words (l.pciAddr Reg.gtxAsyncCfg)).getLsbD 28 := by
    rw [runOps_words, RegLayout.getLsbD_setAll _ (free_asyncCfg_28 l)]
  have high (w v : Word32) (low low' : Nat) :
      getField w low 5 = getField v low' 5 ↔
        getField w low 4 = getField v low' 4 ∧ w.getLsbD (low + 4) = v.getLsbD (low' + 4) :=
    getField_succ_eq_iff w v low low' 4
  rw [read_eq, read_eq]
  cases last : lastSet .txPostEmph ops with
  | none =>
      rw [last] at written
      exact iff_of_true ((high ..).mpr ⟨written, kept⟩) (by simp)
  | some v =>
      rw [last] at written
      have written' : getField ((runOps l ops b).words (l.pciAddr Reg.gtxAsyncCfg)) 24 4 =
          getField v 0 4 := written
      show getField ((runOps l ops b).words (l.pciAddr Reg.gtxAsyncCfg)) 24 5 = getField v 0 5 ↔ _
      rw [high, and_iff_right written', kept]
      simp only [Option.mem_some_iff, forall_eq']
      exact eq_comm

/-- **Transceiver settings.** After every sequence of calls the getters return
what was set last, and nothing else changed, exactly when the last post-emphasis
has the bit 4 that the register had before, and the last override is bit 0 of
GTX_CTRL. -/
theorem settingsKept_iff (l : Link) (ops : List ControlOp) (b : Bar) :
    SettingsKept l ops b (runOps l ops b) ↔
      (∀ v ∈ lastSet .txPostEmph ops,
        v.getLsbD 4 = (b.words (l.pciAddr Reg.gtxAsyncCfg)).getLsbD 28) ∧
      ∀ v ∈ lastSet .dfeTapOverride ops,
        v.getLsbD 0 = (b.words (l.gtxAddr Reg.gtxCtrl)).getLsbD 0 := by
  rw [← read_txPostEmph_iff, ← read_dfeTapOverride_iff]
  constructor
  · intro kept
    exact ⟨kept.getters .txPostEmph, kept.getters .dfeTapOverride⟩
  · rintro ⟨postEmph, override⟩
    refine ⟨?_, ?_, ?_⟩
    · intro f
      cases f with
      | txPostEmph => exact postEmph
      | dfeTapOverride => exact override
      | _ => exact read_runOps l ops b (by decide)
    · rw [getReset_eq, read_eq, read_eq, read_eq]
      rfl
    · intro a i free
      rw [runOps_words]
      refine RegLayout.getLsbD_setAll _ ?_ _ _
      -- a bit that is not read is not written
      rintro f ⟨address, low, high⟩
      obtain ⟨sameReg, sameLow, narrower⟩ := written_within_read f
      refine free f ⟨(congrArg (ControlReg.addr l) sameReg).symm.trans address, ?_, ?_⟩
      · exact sameLow ▸ low
      · exact Nat.lt_of_lt_of_le high (sameLow ▸ Nat.add_le_add_left narrower _)

/-- Post-emphasis 16 on registers that are all zero. -/
theorem not_settingsKept_postEmph :
    let l : Link := ⟨0⟩
    let b : Bar := ⟨fun _ => 0, []⟩
    ¬SettingsKept l [.setTxPostEmph 16] b (runOps l [.setTxPostEmph 16] b) := by
  intro l b kept
  have read := kept.getters .txPostEmph
  revert read
  decide

end Librorc.Gtx
