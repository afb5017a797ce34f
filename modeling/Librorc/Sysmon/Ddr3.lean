import Librorc.Link.DdlCtrl

/-!
# `ddr3`: the status of the memory modules

The controllers of both modules share DDR3_CTRL, half a word each, and a `ddr3`
shifts by the offset of its own. All of its methods but one see and change
nothing of the other half. `getTgErrorFlag` does without the offset, and shows
the flag of the first module for both.
-/

namespace Librorc

open Librorc.Lib

namespace Reg

def ddr3Ctrl : Word64 := 32
def ddr3C0TesterRdcnt : Word64 := 33
def ddr3C0TesterWrcnt : Word64 := 34
def ddr3C1TesterRdcnt : Word64 := 35
def ddr3C1TesterWrcnt : Word64 := 36

end Reg

/-- `librorc::ddr3`, by its `m_id`. -/
structure Ddr3 where
  id : Nat
  id_le : id ≤ 1

namespace Ddr3

def ofModuleId (moduleId : Word32) : Ddr3 where
  id := (moduleId &&& 1).toNat
  id_le := by
    have bit := @toNat_and_low 32 moduleId 1 (by omega)
    exact bit.trans_le (Nat.le_of_lt_succ (Nat.mod_lt _ (by omega)))

/-! ## Bits of a half-word -/

def reset : Nat := 0
def phyinitdone : Nat := 1
def plllock : Nat := 2
def rdlvlStart : Nat := 3
def rdlvlDone : Nat := 4
def rdlvlError : Nat := 5
def wrlvlDone : Nat := 7
def wrlvlError : Nat := 8
def tgError : Nat := 15

/-! ## The methods -/

variable (d : Ddr3)

/-- `m_offset` -/
def offset : Nat := d.id * 16

/-- `get32(RORC_REG_DDR3_CTRL)` -/
def ctrl (b : Bar) : Word32 := (b.get32 Reg.ddr3Ctrl).1

def setReset (value : Word32) (b : Bar) : Bar :=
  let (ddrctrl, b) := b.get32 Reg.ddr3Ctrl
  let ddrctrl := ddrctrl &&& ~~~(1#32 <<< d.offset)
  let ddrctrl := ddrctrl ||| ((value &&& 1) <<< d.offset)
  b.set32 Reg.ddr3Ctrl ddrctrl

def getReset (b : Bar) : Word32 := (ctrl b >>> d.offset) &&& 1

/-- Bits 10 and 9. -/
def getBitrate (b : Bar) : Word32 :=
  match ((ctrl b >>> (d.offset + 9)) &&& 3).toNat with
  | 1 => 606
  | 2 => 800
  | 3 => 1066
  | _ => 0

def isImplemented (b : Bar) : Bool := d.getBitrate b != 0

/-- A shift by 32, which the address width of a dual ranked module may be, has no
defined value. Of the product the 32 bits that are returned are taken. -/
def maxModuleSize (b : Bar) : Option Word32 :=
  let addrWidth : Word32 := 32 - ((ctrl b >>> (d.offset + 11)) &&& 7)
  let nranks : Word32 := ((ctrl b >>> (14 + d.offset)) &&& 1) + 1
  let addrWidth := if nranks = 1 then addrWidth - 1 else addrWidth
  if addrWidth < 32 then some (8 * (1#32 <<< addrWidth.toNat)) else none

def controllerState (b : Bar) : Word16 := ((ctrl b >>> d.offset) &&& 0xffff).setWidth 16

/-- `1 << bit`, in a half-word. -/
def bit (pos : Nat) : Word16 := 1#16 <<< pos

def initSuccessful (b : Bar) : Bool :=
  let controllerStatus : Word16 := ((ctrl b >>> d.offset) &&& 0xffff).setWidth 16
  let checkmask := bit reset ||| bit phyinitdone ||| bit plllock ||| bit rdlvlStart |||
    bit rdlvlDone ||| bit rdlvlError ||| bit wrlvlDone ||| bit wrlvlError
  let expectedValue := bit phyinitdone ||| bit plllock ||| bit rdlvlStart ||| bit rdlvlDone |||
    bit wrlvlDone
  controllerStatus &&& checkmask == expectedValue

def initPhaseDone (b : Bar) : Bool :=
  let controllerStatus : Word16 := ((ctrl b >>> d.offset) &&& 0xffff).setWidth 16
  let checkmask := bit reset ||| bit phyinitdone ||| bit plllock ||| bit rdlvlDone |||
    bit wrlvlDone
  let expectedValue := bit phyinitdone ||| bit plllock ||| bit rdlvlDone ||| bit wrlvlDone
  controllerStatus &&& checkmask == expectedValue

/-- The only one without the offset. -/
def getTgErrorFlag (_d : Ddr3) (b : Bar) : Word32 := (ctrl b >>> tgError) &&& 1

def getTgRdCount (b : Bar) : Word32 :=
  if d.id = 0 then (b.get32 Reg.ddr3C0TesterRdcnt).1 else (b.get32 Reg.ddr3C1TesterRdcnt).1

def getTgWrCount (b : Bar) : Word32 :=
  if d.id = 0 then (b.get32 Reg.ddr3C0TesterWrcnt).1 else (b.get32 Reg.ddr3C1TesterWrcnt).1

/-! ## What a module is to see and to change -/

/-- The registers agree on the half-word of the module. -/
def Agree (b b' : Bar) : Prop :=
  ∀ i < 16, (ctrl b).getLsbD (d.offset + i) = (ctrl b').getLsbD (d.offset + i)

/-- Every status is the same. -/
structure SameStatus (b b' : Bar) : Prop where
  reset : d.getReset b = d.getReset b'
  bitrate : d.getBitrate b = d.getBitrate b'
  implemented : d.isImplemented b = d.isImplemented b'
  moduleSize : d.maxModuleSize b = d.maxModuleSize b'
  initSuccessful : d.initSuccessful b = d.initSuccessful b'
  initPhaseDone : d.initPhaseDone b = d.initPhaseDone b'
  state : d.controllerState b = d.controllerState b'
  tgErrorFlag : d.getTgErrorFlag b = d.getTgErrorFlag b'

/-- Nothing but the reset bit of the module changes. -/
def OnlyReset (b b' : Bar) : Prop :=
  ∀ a i, (a = Reg.ddr3Ctrl → i ≠ d.offset + reset) →
    (b'.words a).getLsbD i = (b.words a).getLsbD i

/-- The module depends on its half-word alone, and changes its reset alone. -/
structure Isolated (b b' : Bar) : Prop where
  status : d.SameStatus b b'
  setReset : ∀ value, d.OnlyReset b (d.setReset value b)

/-! ## Resets -/

theorem setReset_words (value : Word32) (b : Bar) :
    (d.setReset value b).words =
      Function.update b.words Reg.ddr3Ctrl (setField (ctrl b) value d.offset 1) := rfl

theorem onlyReset_setReset (value : Word32) (b : Bar) : d.OnlyReset b (d.setReset value b) := by
  intro a i other
  rw [setReset_words]
  by_cases same : a = Reg.ddr3Ctrl
  · have outside : ¬(d.offset ≤ i ∧ i < d.offset + 1) := by
      have ne : i ≠ d.offset + 0 := other same
      omega
    rw [same, Function.update_self, getLsbD_setField_of_outside _ _ outside]
    rfl
  · rw [Function.update_of_ne same]

theorem get32_setReset {a : Word64} (other : a ≠ Reg.ddr3Ctrl) (value : Word32) (b : Bar) :
    ((d.setReset value b).get32 a).1 = (b.get32 a).1 := by
  show (d.setReset value b).words a = b.words a
  rw [setReset_words, Function.update_of_ne other]

/-- The counters of either module go on. -/
theorem getTgCount_setReset (e : Ddr3) (value : Word32) (b : Bar) :
    e.getTgRdCount (d.setReset value b) = e.getTgRdCount b ∧
      e.getTgWrCount (d.setReset value b) = e.getTgWrCount b := by
  constructor
  · rw [getTgRdCount, getTgRdCount, d.get32_setReset (by decide), d.get32_setReset (by decide)]
  · rw [getTgWrCount, getTgWrCount, d.get32_setReset (by decide), d.get32_setReset (by decide)]

/-- The reset bit gets the lowest bit of the value. -/
theorem getReset_setReset (value : Word32) (b : Bar) :
    d.getReset (d.setReset value b) = value &&& 1 := by
  have word : ctrl (d.setReset value b) = setField (ctrl b) value d.offset 1 :=
    (congrFun (d.setReset_words value b) Reg.ddr3Ctrl).trans (Function.update_self ..)
  have fits : d.offset + 1 ≤ 32 := by
    have le := d.id_le
    unfold offset
    omega
  have read := getField_setField_self (ctrl b) value fits
  rw [← word] at read
  exact read.trans (congrArg (· &&& 1) (BitVec.ushiftRight_zero value))

/-! ## Status -/

section Status

variable {d} {b b' : Bar} (agree : d.Agree b b')
include agree

/-- A field of the half-word. -/
theorem getField_of_agree {low width : Nat} (inside : low + width ≤ 16) :
    getField (ctrl b) (d.offset + low) width = getField (ctrl b') (d.offset + low) width := by
  rw [getField_eq_iff]
  intro i small
  rw [Nat.add_assoc]
  exact agree (low + i) (by omega)

theorem getBitrate_of_agree : d.getBitrate b = d.getBitrate b' := by
  have rate : (ctrl b >>> (d.offset + 9)) &&& 3 = (ctrl b' >>> (d.offset + 9)) &&& 3 :=
    @getField_of_agree d b b' agree 9 2 (by omega)
  rw [getBitrate, getBitrate, rate]

theorem maxModuleSize_of_agree : d.maxModuleSize b = d.maxModuleSize b' := by
  have width : (ctrl b >>> (d.offset + 11)) &&& 7 = (ctrl b' >>> (d.offset + 11)) &&& 7 :=
    @getField_of_agree d b b' agree 11 3 (by omega)
  have ranks : (ctrl b >>> (14 + d.offset)) &&& 1 = (ctrl b' >>> (14 + d.offset)) &&& 1 := by
    rw [Nat.add_comm]
    exact @getField_of_agree d b b' agree 14 1 (by omega)
  rw [maxModuleSize, maxModuleSize, width, ranks]

theorem status_of_agree :
    (ctrl b >>> d.offset) &&& 0xffff = (ctrl b' >>> d.offset) &&& 0xffff :=
  @getField_of_agree d b b' agree 0 16 (by omega)

/-- All but one status is read from the half-word. -/
theorem sameStatus_iff :
    d.SameStatus b b' ↔ d.getTgErrorFlag b = d.getTgErrorFlag b' := by
  have status := status_of_agree agree
  have rate := getBitrate_of_agree agree
  constructor
  · exact SameStatus.tgErrorFlag
  · intro flag
    refine ⟨?_, rate, ?_, maxModuleSize_of_agree agree, ?_, ?_, ?_, flag⟩
    · exact @getField_of_agree d b b' agree 0 1 (by omega)
    · rw [isImplemented, isImplemented, rate]
    · rw [initSuccessful, initSuccessful, status]
    · rw [initPhaseDone, initPhaseDone, status]
    · rw [controllerState, controllerState, status]

/-- The flag of the first module, whichever it is read for. -/
theorem getTgErrorFlag_eq_iff :
    d.getTgErrorFlag b = d.getTgErrorFlag b' ↔
      d.id = 0 ∨ (ctrl b).getLsbD 15 = (ctrl b').getLsbD 15 := by
  have flag : d.getTgErrorFlag b = d.getTgErrorFlag b' ↔
      (ctrl b).getLsbD 15 = (ctrl b').getLsbD 15 := getField_one_eq_iff ..
  rw [flag]
  constructor
  · exact .inr
  · rintro (first | same)
    · have own := agree 15 (by omega)
      rwa [offset, first] at own
    · exact same

end Status

/-- A reset of one module is not seen by the other. -/
theorem sameStatus_setReset {e : Ddr3} (other : e.id ≠ d.id) (value : Word32) (b : Bar) :
    e.SameStatus b (d.setReset value b) := by
  have kept {i : Nat} (ne : i ≠ d.offset) :
      (ctrl b).getLsbD i = (ctrl (d.setReset value b)).getLsbD i :=
    (d.onlyReset_setReset value b Reg.ddr3Ctrl i fun _ => ne).symm
  have agree : e.Agree b (d.setReset value b) := by
    intro i small
    apply kept
    unfold offset
    omega
  have flag : 15 ≠ d.offset := by
    unfold offset
    omega
  exact (sameStatus_iff agree).mpr ((getTgErrorFlag_eq_iff agree).mpr (.inr (kept flag)))

/-- Resets of both modules, in any order: each bit reads back as it was given last,
and no counter changes. -/
theorem resets_readBack (calls : List (Ddr3 × Word32)) (b : Bar) :
    let b' := calls.foldl (fun b c => c.1.setReset c.2 b) b
    d.getReset b' = (lastValue d.id (calls.map fun c => (c.1.id, c.2))).elim (d.getReset b)
        (· &&& 1) ∧
      d.getTgRdCount b' = d.getTgRdCount b ∧ d.getTgWrCount b' = d.getTgWrCount b := by
  induction calls generalizing b with
  | nil => exact ⟨rfl, rfl, rfl⟩
  | cons c rest ih =>
      obtain ⟨e, value⟩ := c
      obtain ⟨bit, reads, writes⟩ := ih (e.setReset value b)
      obtain ⟨readsKept, writesKept⟩ := e.getTgCount_setReset d value b
      refine ⟨?_, reads.trans readsKept, writes.trans writesKept⟩
      rw [List.foldl_cons, bit, List.map_cons]
      by_cases same : e.id = d.id
      · obtain rfl : e = d := by
          cases e
          cases d
          cases same
          rfl
        rw [lastValue_cons_self, getReset_setReset]
        cases lastValue e.id (rest.map fun c => (c.1.id, c.2)) <;> rfl
      · rw [lastValue_cons_of_ne same, ← (e.sameStatus_setReset (Ne.symm same) value b).reset]

/-- DDR3_CTRL with a value, everything else zero. -/
def ctrlBar (value : Word32) : Bar := ⟨Function.update (fun _ => 0) Reg.ddr3Ctrl value, []⟩

/-- Over all values the status of the first module alone is its own. -/
theorem sameStatus_of_agree_iff :
    (∀ b b', d.Agree b b' → d.SameStatus b b') ↔ d.id = 0 := by
  constructor
  · intro same
    by_contra second
    have id : d.id = 1 := by
      have le := d.id_le
      omega
    have agree : d.Agree (ctrlBar 0x8000) (ctrlBar 0) := by
      unfold Agree
      rw [offset, id]
      decide
    have flag := (getTgErrorFlag_eq_iff agree).mp (same _ _ agree).tgErrorFlag
    exact absurd (flag.resolve_left second) (by decide)
  · intro first b b' agree
    exact (sameStatus_iff agree).mpr ((getTgErrorFlag_eq_iff agree).mpr (.inl first))

/-- **Module isolation.** Two values of DDR3_CTRL that agree on the half-word of a
module are the same to it exactly for the first module, or if they also agree
on the error flag of the first. A reset is the module's own in any case
(`resets_readBack` has sequences of them). -/
theorem isolated_iff {b b' : Bar} (agree : d.Agree b b') :
    d.Isolated b b' ↔ d.id = 0 ∨ (ctrl b).getLsbD 15 = (ctrl b').getLsbD 15 := by
  rw [← getTgErrorFlag_eq_iff agree, ← sameStatus_iff agree]
  constructor
  · exact Isolated.status
  · intro status
    exact ⟨status, fun value => d.onlyReset_setReset value b⟩

/-- The first module, with a second one in error or absent. -/
theorem isolated_first :
    (ofModuleId 0).Isolated (ctrlBar 0xffff4cbe) (ctrlBar 0x4cbe) := by
  have agree : (ofModuleId 0).Agree (ctrlBar 0xffff4cbe) (ctrlBar 0x4cbe) := by
    unfold Agree
    decide
  exact ((ofModuleId 0).isolated_iff agree).mpr (.inl (by decide))

/-- An error of the first module is shown for the second. -/
theorem not_isolated_second :
    (ofModuleId 1).Agree (ctrlBar 0x8000) (ctrlBar 0) ∧
      ¬(ofModuleId 1).Isolated (ctrlBar 0x8000) (ctrlBar 0) := by
  constructor
  · unfold Agree
    decide
  · intro isolated
    exact absurd isolated.status.tgErrorFlag (by decide)

end Ddr3

end Librorc
