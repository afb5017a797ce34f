import Librorc.Flash.Chip

/-!
# `getUniqueDeviceNumber`

The device number is four words wide. The sum is 64 bits wide, but each word is
shifted as an `int` first: the second word gets there with its top bit extended,
and the shifts of the third and the fourth are as wide as the type or wider.
-/

namespace Librorc

/-- The number of the first `count` words: each one 16 bits above the last. -/
def deviceNumber (words : Nat → Word16) : Nat → Word64
  | 0 => 0
  | count + 1 => deviceNumber words count + (words count).setWidth 64 <<< (16 * count)

namespace Flash

variable {σ : Type*} (f : Flash σ) (s : σ)

/-- The chip before word `i` is read, and the word it answers. -/
def beforeWord : Nat → σ
  | 0 => f.sendCommand s 0 flashCmdReadIdentifier
  | i + 1 => (f.get (0x81 + BitVec.ofNat 32 i) (beforeWord i)).2

def identifierWord (i : Nat) : Word16 :=
  (f.get (0x81 + BitVec.ofNat 32 i) (f.beforeWord s i)).1

/-- The number is the one of the four words, and every step to it is defined. -/
def ReturnsDeviceNumber : Prop :=
  (f.getUniqueDeviceNumber s).1 = some (deviceNumber (f.identifierWord s) 4)

/-! ## Single words -/

theorem shiftedWord_zero (word : Word16) : shiftedWord word 0 = some (word.setWidth 64) := by
  have small := word.isLt
  have positive : ((word.setWidth 32) <<< (16 * 0)).msb = false := by
    rw [Nat.mul_zero, BitVec.shiftLeft_zero, BitVec.msb_eq_false_iff_two_mul_lt,
      BitVec.toNat_setWidth]
    omega
  rw [shiftedWord, if_pos (by omega), BitVec.signExtend_eq_setWidth_of_msb_false positive,
    Nat.mul_zero, BitVec.shiftLeft_zero, Option.some.injEq]
  apply BitVec.eq_of_toNat_eq
  simp only [BitVec.toNat_setWidth]
  omega

theorem getLsbD_shifted_31 (word : Word16) :
    ((word.setWidth 32) <<< 16).getLsbD 31 = word.getLsbD 15 := by
  rw [BitVec.getLsbD_shiftLeft, BitVec.getLsbD_setWidth]
  simp

/-- The second word is shifted right as long as its top bit is clear. -/
theorem shiftedWord_one_iff (word : Word16) :
    shiftedWord word 1 = some (word.setWidth 64 <<< 16) ↔ word.getLsbD 15 = false := by
  rw [shiftedWord, if_pos (by omega), Option.some.injEq, Nat.mul_one]
  constructor
  · intro same
    have top := congrArg (BitVec.getLsbD · 63) same
    simp only [BitVec.getLsbD_signExtend, BitVec.getLsbD_shiftLeft, BitVec.getLsbD_setWidth] at top
    rw [BitVec.getLsbD_of_ge word _ (by omega), BitVec.msb_eq_getLsbD_last,
      getLsbD_shifted_31] at top
    simpa using top
  · intro clear
    have positive : ((word.setWidth 32) <<< 16).msb = false := by
      rw [BitVec.msb_eq_getLsbD_last, getLsbD_shifted_31, clear]
    rw [BitVec.signExtend_eq_setWidth_of_msb_false positive]
    apply BitVec.eq_of_toNat_eq
    have small := word.isLt
    simp only [BitVec.toNat_setWidth, BitVec.toNat_shiftLeft, Nat.shiftLeft_eq]
    omega

theorem shiftedWord_undefined (word : Word16) {i : Nat} (wide : 2 ≤ i) :
    shiftedWord word i = none := if_neg (by omega)

/-! ## The sum -/

/-- A sum that has lost its value does not get it back. -/
theorem addWords_none (left i : Nat) (s : σ) : (f.addWords left i none s).1 = none := by
  induction left generalizing i s with
  | zero => rfl
  | succ left ih => exact ih (i + 1) _

/-- One turn of the loop. -/
theorem addWords_succ (left i : Nat) (number : Option Word64) :
    f.addWords (left + 1) i number (f.beforeWord s i) =
      f.addWords left (i + 1)
        (number.bind fun n => (shiftedWord (f.identifierWord s i) i).map (n + ·))
        (f.beforeWord s (i + 1)) := rfl

/-- The sum of the first two words. -/
theorem addWords_two :
    (f.addWords 2 0 (some 0) (f.beforeWord s 0)).1 =
      (shiftedWord (f.identifierWord s 1) 1).map
        ((f.identifierWord s 0).setWidth 64 + ·) := by
  rw [addWords_succ, addWords_succ, shiftedWord_zero]
  simp only [Option.bind_some, Option.map_some, BitVec.ofNat_eq_ofNat, BitVec.zero_add]
  rfl

/-- From the third word on there is nothing to add to. -/
theorem addWords_four :
    (f.addWords 4 0 (some 0) (f.beforeWord s 0)).1 = none := by
  rw [addWords_succ, addWords_succ, addWords_succ, shiftedWord_undefined _ (Nat.le_refl 2)]
  simp only [Option.map_none, Option.bind_fun_none]
  exact f.addWords_none ..

/-- **The device number.** On every chip and for all words the number has no
defined value; the sum of the first two words is right exactly when the top bit
of the second is clear. -/
theorem getUniqueDeviceNumber_undefined :
    (f.getUniqueDeviceNumber s).1 = none ∧ ¬f.ReturnsDeviceNumber s ∧
      ((f.addWords 2 0 (some 0) (f.beforeWord s 0)).1 =
          some (deviceNumber (f.identifierWord s) 2) ↔
        (f.identifierWord s 1).getLsbD 15 = false) := by
  have undefined : (f.getUniqueDeviceNumber s).1 = none := f.addWords_four s
  refine ⟨undefined, ?_, ?_⟩
  · rw [ReturnsDeviceNumber, undefined]
    simp
  · have number : deviceNumber (f.identifierWord s) 2 =
        (f.identifierWord s 0).setWidth 64 + (f.identifierWord s 1).setWidth 64 <<< 16 := by
      simp [deviceNumber]
    rw [addWords_two, number, ← shiftedWord_one_iff]
    constructor
    · intro sum
      obtain ⟨word, shifted, same⟩ := Option.map_eq_some_iff.mp sum
      rw [shifted, (BitVec.add_right_inj _).mp same]
    · intro shifted
      rw [shifted, Option.map_some]

end Flash

/-- A chip that answers every read with 1. -/
def onesFlash : Flash Unit := ⟨⟨fun _ _ _ => (), fun _ _ => (1, ())⟩, 0⟩

/-- Its number is `0x0001000100010001`. -/
theorem not_returnsDeviceNumber_ones :
    deviceNumber (onesFlash.identifierWord ()) 4 = 0x0001000100010001 ∧
      (onesFlash.getUniqueDeviceNumber ()).1 = none ∧ ¬onesFlash.ReturnsDeviceNumber () := by
  have undefined : (onesFlash.getUniqueDeviceNumber ()).1 = none := by decide
  refine ⟨by decide, undefined, ?_⟩
  rw [Flash.ReturnsDeviceNumber, undefined]
  simp

end Librorc
