import Librorc.Dma.Pointers
import Librorc.Lib.SplitRead

/-!
# The write pointers of the device

`getEBDMAOffset` and `getRBDMAOffset` put a 64-bit pointer together from two
register reads. Every read is a bus access of its own, and the device moves its
pointers on between any two of them.
-/

namespace Librorc

open Librorc.Lib

namespace DmaChannel

/-- `getEBDMAOffset`, with the channel as each of the two accesses finds it. -/
def getEBDMAOffset (atHigh atLow : DmaChannel) : Word64 :=
  ((atHigh.pciReg Reg.ebdmFpgaWritePointerH).setWidth 64 <<< 32) +
    (atLow.pciReg Reg.ebdmFpgaWritePointerL).setWidth 64

def getRBDMAOffset (atHigh atLow : DmaChannel) : Word64 :=
  ((atHigh.pciReg Reg.rbdmFpgaWritePointerH).setWidth 64 <<< 32) +
    (atLow.pciReg Reg.rbdmFpgaWritePointerL).setWidth 64

/-! ## The device -/

/-- One of the two descriptor managers writes to its buffer. -/
structure PointerMove where
  rbdm : Bool
  bytes : Nat

def writePointerH (rbdm : Bool) : Nat :=
  if rbdm then Reg.rbdmFpgaWritePointerH else Reg.ebdmFpgaWritePointerH

def writePointerL (rbdm : Bool) : Nat :=
  if rbdm then Reg.rbdmFpgaWritePointerL else Reg.ebdmFpgaWritePointerL

/-- The pointer the device has in the two registers. -/
def writePointer (ch : DmaChannel) (rbdm : Bool) : Word64 :=
  ch.device.reg (writePointerH rbdm) ++ ch.device.reg (writePointerL rbdm)

/-- The buffer size the device was given. -/
def bufferSize (ch : DmaChannel) (rbdm : Bool) : Word64 :=
  if rbdm then ch.getRBSize else ch.getEBSize

/-- The pointer after a move; it wraps at the end of the buffer. -/
def moved (ch : DmaChannel) (m : PointerMove) : Word64 :=
  BitVec.ofNat 64 (((ch.writePointer m.rbdm).toNat + m.bytes) % (ch.bufferSize m.rbdm).toNat)

/-- Both registers change at once. -/
def advance (ch : DmaChannel) (m : PointerMove) : DmaChannel :=
  { ch with
    device.reg := Function.update
      (Function.update ch.device.reg (writePointerH m.rbdm) (highWord (ch.moved m)))
      (writePointerL m.rbdm) (lowWord (ch.moved m)) }

/-- The getter that reads the pointer of a descriptor manager. -/
def getDMAOffset (rbdm : Bool) (atHigh atLow : DmaChannel) : Word64 :=
  if rbdm then getRBDMAOffset atHigh atLow else getEBDMAOffset atHigh atLow

end DmaChannel

/-- A call among the moves of the device: moment `k` is after the first `k`
moves, and each half is read at one moment. -/
structure ReadOut where
  start : DmaChannel
  moves : List DmaChannel.PointerMove
  high : Nat
  low : Nat
  high_le : high ≤ moves.length
  low_le : low ≤ moves.length

namespace ReadOut

/-- The channel at a moment. -/
def moment (r : ReadOut) (k : Nat) : DmaChannel :=
  (r.moves.take k).foldl DmaChannel.advance r.start

def pointer (r : ReadOut) (rbdm : Bool) (k : Nat) : Word64 := (r.moment k).writePointer rbdm

/-- The value the call returns. -/
def value (r : ReadOut) (rbdm : Bool) : Word64 :=
  DmaChannel.getDMAOffset rbdm (r.moment r.high) (r.moment r.low)

/-- The pointer has the number `p` at some moment of the call. -/
def Holds (r : ReadOut) (rbdm : Bool) (p : Nat) : Prop :=
  ∃ k ≤ r.moves.length, (r.pointer rbdm k).toNat = p

/-- The value is one the pointer had between the start and the end of the call. -/
def Held (r : ReadOut) (rbdm : Bool) : Prop := r.Holds rbdm (r.value rbdm).toNat

/-- The upper word is the same at both reads. -/
def SameUpper (r : ReadOut) (rbdm : Bool) : Prop :=
  DmaChannel.highWord (r.pointer rbdm r.high) = DmaChannel.highWord (r.pointer rbdm r.low)

/-- During the call the pointer stays within 4 GiB. -/
def Narrow (r : ReadOut) (rbdm : Bool) : Prop :=
  ∀ v w, r.Holds rbdm v → r.Holds rbdm w → v < w + 2 ^ 32

/-- The compiler chooses which of the two reads comes first. -/
def Ordered (r : ReadOut) (highFirst : Bool) : Prop :=
  if highFirst then r.high ≤ r.low else r.low ≤ r.high

/-- The pointer starts inside a buffer of this size. -/
def Inside (r : ReadOut) (rbdm : Bool) (size : Word64) : Prop :=
  r.start.bufferSize rbdm = size ∧ (r.pointer rbdm 0).toNat < size.toNat

end ReadOut

/-! ## One move -/

namespace DmaChannel

variable (ch : DmaChannel) (m : PointerMove) (rbdm : Bool)

theorem writePointer_toNat :
    (ch.writePointer rbdm).toNat = 2 ^ 32 * (ch.device.reg (writePointerH rbdm)).toNat +
      (ch.device.reg (writePointerL rbdm)).toNat := by
  have low := (ch.device.reg (writePointerL rbdm)).isLt
  rw [writePointer, BitVec.toNat_append, Nat.shiftLeft_eq, Nat.mul_comm,
    Nat.two_pow_add_eq_or_of_lt low]

/-- The getters return the high register of one moment over the low register of
the other. -/
theorem getDMAOffset_toNat (atHigh atLow : DmaChannel) :
    (getDMAOffset rbdm atHigh atLow).toNat =
      splice (2 ^ 32) (atHigh.writePointer rbdm).toNat (atLow.writePointer rbdm).toNat := by
  have halves : getDMAOffset rbdm atHigh atLow =
      ((atHigh.device.reg (writePointerH rbdm)).setWidth 64 <<< 32) +
        (atLow.device.reg (writePointerL rbdm)).setWidth 64 := by
    cases rbdm <;> rfl
  have high := (atHigh.device.reg (writePointerH rbdm)).isLt
  have highL := (atHigh.device.reg (writePointerL rbdm)).isLt
  have low := (atLow.device.reg (writePointerL rbdm)).isLt
  rw [halves, splice, writePointer_toNat, writePointer_toNat, Nat.mul_add_div (by omega),
    Nat.div_eq_of_lt highL, Nat.mul_add_mod, Nat.mod_eq_of_lt low]
  simp only [BitVec.toNat_add, BitVec.toNat_shiftLeft, BitVec.toNat_setWidth, Nat.shiftLeft_eq]
  omega

theorem bufferSize_advance : (ch.advance m).bufferSize rbdm = ch.bufferSize rbdm := by
  cases m with
  | mk target bytes => cases target <;> cases rbdm <;> rfl

/-- A move of the other pointer. -/
theorem writePointer_advance_of_ne (other : m.rbdm ≠ rbdm) :
    (ch.advance m).writePointer rbdm = ch.writePointer rbdm := by
  cases m with
  | mk target bytes =>
      cases target <;> cases rbdm
      · exact absurd rfl other
      · rfl
      · rfl
      · exact absurd rfl other

theorem writePointer_advance : (ch.advance m).writePointer m.rbdm = ch.moved m := by
  refine Eq.trans ?_ (highWord_append_lowWord (ch.moved m))
  cases m with
  | mk target bytes => cases target <;> rfl

/-- A move stays inside the buffer. -/
theorem writePointer_advance_lt
    (inside : (ch.writePointer rbdm).toNat < (ch.bufferSize rbdm).toNat) :
    ((ch.advance m).writePointer rbdm).toNat < (ch.bufferSize rbdm).toNat := by
  by_cases same : m.rbdm = rbdm
  · subst same
    rw [writePointer_advance, moved, BitVec.toNat_ofNat]
    exact Nat.lt_of_le_of_lt (Nat.mod_le ..) (Nat.mod_lt _ (Nat.zero_lt_of_lt inside))
  · rwa [writePointer_advance_of_ne ch m rbdm same]

/-- After any moves the sizes are what they were, and the pointer is inside. -/
theorem foldl_advance_inside (moves : List PointerMove)
    (inside : (ch.writePointer rbdm).toNat < (ch.bufferSize rbdm).toNat) :
    ((moves.foldl advance ch).writePointer rbdm).toNat < (ch.bufferSize rbdm).toNat := by
  induction moves generalizing ch with
  | nil => exact inside
  | cons m moves ih =>
      have step := writePointer_advance_lt ch m rbdm inside
      rw [← bufferSize_advance ch m rbdm] at step ⊢
      exact ih (ch.advance m) step

theorem highWord_eq_iff (x y : Word64) :
    highWord x = highWord y ↔ x.toNat / 2 ^ 32 = y.toNat / 2 ^ 32 := by
  have upper : ∀ z : Word64, (highWord z).toNat = z.toNat / 2 ^ 32 := by
    intro z
    have bound := z.isLt
    rw [highWord, BitVec.toNat_setWidth, BitVec.toNat_ushiftRight, Nat.shiftRight_eq_div_pow]
    exact Nat.mod_eq_of_lt (by omega)
  rw [← BitVec.toNat_inj, upper, upper]

end DmaChannel

/-! ## One call -/

namespace ReadOut

variable {r : ReadOut} {rbdm : Bool}

theorem value_toNat (r : ReadOut) (rbdm : Bool) :
    (r.value rbdm).toNat =
      splice (2 ^ 32) (r.pointer rbdm r.high).toNat (r.pointer rbdm r.low).toNat :=
  DmaChannel.getDMAOffset_toNat rbdm _ _

theorem holds_pointer {k : Nat} (inCall : k ≤ r.moves.length) :
    r.Holds rbdm (r.pointer rbdm k).toNat := ⟨k, inCall, rfl⟩

/-- As long as the upper word stays, the value is the pointer of the moment the
lower word was read at. -/
theorem held_of_sameUpper (same : r.SameUpper rbdm) : r.Held rbdm := by
  have upper := (DmaChannel.highWord_eq_iff _ _).mp same
  unfold Held
  rw [value_toNat, splice_eq_right upper]
  exact holds_pointer r.low_le

theorem held_iff_sameUpper (narrow : r.Narrow rbdm) : r.Held rbdm ↔ r.SameUpper rbdm := by
  unfold Held SameUpper
  rw [value_toNat, DmaChannel.highWord_eq_iff]
  exact splice_held_iff (holds_pointer r.low_le) narrow

/-- In a buffer of at most 4 GiB every upper word is zero. -/
theorem sameUpper_of_small {size : Word64} (small : size.toNat ≤ 2 ^ 32)
    (inside : r.Inside rbdm size) : r.SameUpper rbdm := by
  obtain ⟨given, start⟩ := inside
  have within : ∀ k, (r.pointer rbdm k).toNat / 2 ^ 32 = 0 := by
    intro k
    have bound := r.start.foldl_advance_inside rbdm (r.moves.take k) (given.symm ▸ start)
    rw [given] at bound
    exact Nat.div_eq_of_lt (Nat.lt_of_lt_of_le bound small)
  rw [SameUpper, DmaChannel.highWord_eq_iff, within, within]

/-! ## Over a 4 GiB boundary -/

/-- Both pointers are on the last byte below 4 GiB. -/
def parked (size : Word64) : DmaChannel where
  device :=
    { reg := fun addr =>
        if addr = Reg.ebdmBufferSizeL ∨ addr = Reg.rbdmBufferSizeL then DmaChannel.lowWord size
        else if addr = Reg.ebdmBufferSizeH ∨ addr = Reg.rbdmBufferSizeH then
          DmaChannel.highWord size
        else if addr = Reg.ebdmFpgaWritePointerL ∨ addr = Reg.rbdmFpgaWritePointerL then 0xffffffff
        else 0
      rams := ⟨fun _ _ => ⟨0, 0⟩, []⟩ }
  linkNumber := 0
  lastEbdmOffset := 0
  lastRbdmOffset := 0
  outFifoDepth := 0

/-- The device writes one byte between the two reads. -/
def crossing (rbdm : Bool) (size : Word64) (highFirst : Bool) : ReadOut where
  start := parked size
  moves := [⟨rbdm, 1⟩]
  high := if highFirst then 0 else 1
  low := if highFirst then 1 else 0
  high_le := by cases highFirst <;> simp
  low_le := by cases highFirst <;> simp

theorem parked_bufferSize (size : Word64) (rbdm : Bool) :
    (parked size).bufferSize rbdm = size := by
  refine Eq.trans ?_ (DmaChannel.highWord_add_lowWord size)
  cases rbdm <;> rfl

theorem crossing_pointer (rbdm : Bool) {size : Word64} (large : 2 ^ 32 < size.toNat)
    (highFirst : Bool) (k : Nat) :
    ((crossing rbdm size highFirst).pointer rbdm k).toNat = 2 ^ 32 - 1 + min k 1 := by
  have registers : (parked size).writePointer rbdm = 0#32 ++ 0xffffffff#32 := by
    cases rbdm <;> rfl
  have parked : ((parked size).writePointer rbdm).toNat = 2 ^ 32 - 1 := by
    rw [registers]
    decide
  cases k with
  | zero => exact parked
  | succ k =>
      have first : (crossing rbdm size highFirst).pointer rbdm (k + 1) =
          ((ReadOut.parked size).advance ⟨rbdm, 1⟩).writePointer rbdm := by
        rw [pointer, moment, crossing, List.take_succ_cons, List.take_nil]
        rfl
      have next := (ReadOut.parked size).writePointer_advance ⟨rbdm, 1⟩
      have bound := size.isLt
      have inside : (2 ^ 32 - 1 + 1) % size.toNat = 2 ^ 32 := Nat.mod_eq_of_lt large
      rw [first, next, DmaChannel.moved, parked, parked_bufferSize, inside, BitVec.toNat_ofNat]
      omega

theorem not_crossing_held (rbdm : Bool) {size : Word64} (large : 2 ^ 32 < size.toNat)
    (highFirst : Bool) : ¬ (crossing rbdm size highFirst).Held rbdm := by
  have narrow : (crossing rbdm size highFirst).Narrow rbdm := by
    rintro _ _ ⟨k, -, rfl⟩ ⟨k', -, rfl⟩
    rw [crossing_pointer rbdm large, crossing_pointer rbdm large]
    omega
  rw [held_iff_sameUpper narrow, SameUpper, DmaChannel.highWord_eq_iff,
    crossing_pointer rbdm large, crossing_pointer rbdm large]
  cases highFirst
  · show ¬ (2 ^ 32 - 1 + min 1 1) / 2 ^ 32 = (2 ^ 32 - 1 + min 0 1) / 2 ^ 32
    omega
  · show ¬ (2 ^ 32 - 1 + min 0 1) / 2 ^ 32 = (2 ^ 32 - 1 + min 1 1) / 2 ^ 32
    omega

/-- The value is one the pointer had whenever the upper word is the same at both
reads, and as long as the pointer stays within 4 GiB during the call only then.
With either order of the reads all calls are safe on buffers of at most 4 GiB,
and on no others. -/
theorem getDMAOffset_held (rbdm : Bool) :
    (∀ r : ReadOut, r.SameUpper rbdm → r.Held rbdm) ∧
      (∀ r : ReadOut, r.Narrow rbdm → (r.Held rbdm ↔ r.SameUpper rbdm)) ∧
      ∀ (size : Word64) (highFirst : Bool),
        (∀ r : ReadOut, r.Ordered highFirst → r.Inside rbdm size → r.Held rbdm) ↔
          size.toNat ≤ 2 ^ 32 := by
  refine ⟨fun r => held_of_sameUpper, fun r => held_iff_sameUpper, fun size highFirst => ?_⟩
  constructor
  · intro safe
    by_contra large
    replace large := Nat.not_le.mp large
    refine not_crossing_held rbdm large highFirst (safe _ ?_ ⟨parked_bufferSize size rbdm, ?_⟩)
    · cases highFirst
      · exact Nat.zero_le 1
      · exact Nat.zero_le 1
    · rw [crossing_pointer rbdm large]
      omega
  · intro small r _ inside
    exact held_of_sameUpper (sameUpper_of_small small inside)

/-- In a buffer of 8 GiB the pointer goes from `0xffffffff` to `0x100000000`; the
value is 0 or `0x1ffffffff`. -/
theorem crossing_torn :
    ((crossing false 0x200000000 true).value false = 0 ∧
        ¬ (crossing false 0x200000000 true).Held false) ∧
      (crossing false 0x200000000 false).value false = 0x1ffffffff ∧
        ¬ (crossing false 0x200000000 false).Held false := by
  have large : 2 ^ 32 < (0x200000000 : Word64).toNat := by decide
  exact ⟨⟨by rfl, not_crossing_held false large true⟩, by rfl, not_crossing_held false large false⟩

end ReadOut

end Librorc
