import Mathlib.Data.Nat.Bitwise
import Mathlib.Tactic.Common

/-!
# Fields of a word

A field is the part of a word between two bits. Reading one is a shift and a
mask; what it returns is division and remainder on numbers.
-/

namespace Librorc.Lib

variable {n : ℕ}

theorem toNat_and_low (w : BitVec n) {m : ℕ} (fits : m ≤ n) :
    (w &&& BitVec.ofNat n (2 ^ m - 1)).toNat = w.toNat % 2 ^ m := by
  have mask : (BitVec.ofNat n (2 ^ m - 1)).toNat = 2 ^ m - 1 := by
    have grows : 2 ^ m ≤ 2 ^ n := Nat.pow_le_pow_right (by omega) fits
    have pos : 0 < 2 ^ m := Nat.pow_pos (by omega)
    rw [BitVec.toNat_ofNat]
    exact Nat.mod_eq_of_lt (by omega)
  rw [BitVec.toNat_and, mask, Nat.and_two_pow_sub_one_eq_mod]

/-- Shift and mask. -/
theorem toNat_field (w : BitVec n) (low : ℕ) {width : ℕ} (fits : width ≤ n) :
    ((w >>> low) &&& BitVec.ofNat n (2 ^ width - 1)).toNat = w.toNat / 2 ^ low % 2 ^ width := by
  rw [toNat_and_low _ fits, BitVec.toNat_ushiftRight, Nat.shiftRight_eq_div_pow]

/-- What a field shows, kept in a word of its own. -/
theorem setWidth_field_eq {w : BitVec n} {m : ℕ} {v : BitVec m} (low width : ℕ)
    (fits : width ≤ n) (value : w.toNat / 2 ^ low % 2 ^ width % 2 ^ m = v.toNat) :
    ((w >>> low) &&& BitVec.ofNat n (2 ^ width - 1)).setWidth m = v := by
  apply BitVec.eq_of_toNat_eq
  rw [BitVec.toNat_setWidth, toNat_field w low fits, value]

/-- The lowest field, which needs no shift. -/
theorem setWidth_low_eq {w : BitVec n} {m : ℕ} {v : BitVec m} (width : ℕ) (fits : width ≤ n)
    (value : w.toNat % 2 ^ width % 2 ^ m = v.toNat) :
    (w &&& BitVec.ofNat n (2 ^ width - 1)).setWidth m = v := by
  apply BitVec.eq_of_toNat_eq
  rw [BitVec.toNat_setWidth, toNat_and_low w fits, value]

/-- A word put into the zeros of another. -/
theorem toNat_or_of_dvd {high low : BitVec n} {width : ℕ} (zeros : 2 ^ width ∣ high.toNat)
    (small : low.toNat < 2 ^ width) : (high ||| low).toNat = high.toNat + low.toNat := by
  obtain ⟨a, value⟩ := zeros
  rw [BitVec.toNat_or, value, Nat.two_pow_add_eq_or_of_lt small]

/-- The same, with the high part shifted to its place. -/
theorem toNat_shiftLeft_or {high low : BitVec n} {width : ℕ} (fits : high.toNat * 2 ^ width < 2 ^ n)
    (small : low.toNat < 2 ^ width) :
    ((high <<< width) ||| low).toNat = high.toNat * 2 ^ width + low.toNat := by
  have value : (high <<< width).toNat = high.toNat * 2 ^ width := by
    rw [BitVec.toNat_shiftLeft, Nat.shiftLeft_eq, Nat.mod_eq_of_lt fits]
  rw [toNat_or_of_dvd (value ▸ Nat.dvd_mul_left ..) small, value]

/-! ## Bit by bit -/

/-- The `width` bits from `low` on. -/
def getField (w : BitVec n) (low width : ℕ) : BitVec n :=
  (w >>> low) &&& BitVec.ofNat n (2 ^ width - 1)

/-- `w` with the low `width` bits of `v` in the place of those from `low` on. -/
def setField (w v : BitVec n) (low width : ℕ) : BitVec n :=
  (w &&& ~~~(BitVec.ofNat n (2 ^ width - 1) <<< low)) |||
    ((v &&& BitVec.ofNat n (2 ^ width - 1)) <<< low)

/-- Clearing a field. -/
theorem and_not_eq_setField (w : BitVec n) (low width : ℕ) :
    w &&& ~~~(BitVec.ofNat n (2 ^ width - 1) <<< low) = setField w 0 low width := by
  rw [setField, BitVec.ofNat_eq_ofNat, BitVec.zero_and, BitVec.zero_shiftLeft, BitVec.or_zero]

/-- Filling a field with ones needs no clearing. -/
theorem or_eq_setField (w : BitVec n) (low width : ℕ) :
    w ||| (BitVec.ofNat n (2 ^ width - 1) <<< low) =
      setField w (BitVec.ofNat n (2 ^ width - 1)) low width := by
  rw [setField, BitVec.and_self]
  apply BitVec.eq_of_getLsbD_eq
  intro i inside
  simp only [BitVec.getLsbD_or, BitVec.getLsbD_and, BitVec.getLsbD_not, inside, decide_true,
    Bool.true_and]
  cases (BitVec.ofNat n (2 ^ width - 1) <<< low).getLsbD i <;> simp

/-- A mask of ones, as programs write it. -/
theorem one_shiftLeft_sub_one {width : ℕ} (fits : width < n) :
    ((1#n) <<< width) - 1#n = BitVec.ofNat n (2 ^ width - 1) := by
  have grows : 2 ^ width < 2 ^ n := Nat.pow_lt_pow_right (by omega) fits
  have pos : 0 < 2 ^ width := Nat.two_pow_pos width
  have one : (1#n).toNat = 1 := by
    rw [BitVec.toNat_ofNat]
    exact Nat.mod_eq_of_lt (by omega)
  have shifted : ((1#n) <<< width).toNat = 2 ^ width := by
    rw [BitVec.toNat_shiftLeft, Nat.shiftLeft_eq, one, Nat.one_mul, Nat.mod_eq_of_lt grows]
  apply BitVec.eq_of_toNat_eq
  rw [BitVec.toNat_sub, shifted, one, BitVec.toNat_ofNat]
  have split : 2 ^ n - 1 + 2 ^ width = 2 ^ n + (2 ^ width - 1) := by omega
  rw [split, Nat.add_mod_left]

theorem getLsbD_ones (width i : ℕ) :
    (BitVec.ofNat n (2 ^ width - 1)).getLsbD i = (decide (i < n) && decide (i < width)) := by
  rw [BitVec.getLsbD_ofNat, Nat.testBit_two_pow_sub_one]

theorem getLsbD_getField (w : BitVec n) (low width i : ℕ) :
    (getField w low width).getLsbD i = (decide (i < width) && w.getLsbD (low + i)) := by
  rw [getField, BitVec.getLsbD_and, BitVec.getLsbD_ushiftRight, getLsbD_ones]
  by_cases inside : i < n
  · simp only [inside, decide_true, Bool.true_and, Bool.and_comm]
  · rw [BitVec.getLsbD_of_ge w (low + i) (by omega)]
    simp only [Bool.false_and, Bool.and_false]

/-- Fields are equal if their bits are. -/
theorem getField_eq_iff (w v : BitVec n) (low low' width : ℕ) :
    getField w low width = getField v low' width ↔
      ∀ i < width, w.getLsbD (low + i) = v.getLsbD (low' + i) := by
  constructor
  · intro same i small
    have bit := congrArg (fun word => word.getLsbD i) same
    simpa only [getLsbD_getField, small, decide_true, Bool.true_and] using bit
  · intro bits
    apply BitVec.eq_of_getLsbD_eq
    intro i _
    rw [getLsbD_getField, getLsbD_getField]
    by_cases small : i < width
    · rw [bits i small]
    · simp only [small, decide_false, Bool.false_and]

/-- Two fields are equal if they are without their highest bits, and those are. -/
theorem getField_succ_eq_iff (w v : BitVec n) (low low' width : ℕ) :
    getField w low (width + 1) = getField v low' (width + 1) ↔
      getField w low width = getField v low' width ∧
        w.getLsbD (low + width) = v.getLsbD (low' + width) := by
  rw [getField_eq_iff, getField_eq_iff]
  exact Nat.forall_lt_succ_right

theorem getField_zero (w : BitVec n) (low : ℕ) : getField w low 0 = 0 :=
  BitVec.and_zero

/-- A field of one bit. -/
theorem getField_one_eq_iff (w v : BitVec n) (low low' : ℕ) :
    getField w low 1 = getField v low' 1 ↔ w.getLsbD low = v.getLsbD low' := by
  rw [getField_succ_eq_iff, getField_zero, getField_zero, Nat.add_zero,
    Nat.add_zero, and_iff_right rfl]

theorem getField_getField (w : BitVec n) (low width : ℕ) :
    getField (getField w low width) 0 width = getField w low width := by
  apply BitVec.eq_of_getLsbD_eq
  intro i _
  rw [getLsbD_getField, Nat.zero_add, getLsbD_getField, ← Bool.and_assoc, Bool.and_self]

theorem getLsbD_setField (w v : BitVec n) (low width : ℕ) {i : ℕ} (inside : i < n) :
    (setField w v low width).getLsbD i =
      if low ≤ i ∧ i < low + width then v.getLsbD (i - low) else w.getLsbD i := by
  have shifted : i - low < n := by omega
  rw [setField, BitVec.getLsbD_or, BitVec.getLsbD_and, BitVec.getLsbD_not,
    BitVec.getLsbD_shiftLeft, BitVec.getLsbD_shiftLeft, BitVec.getLsbD_and, getLsbD_ones]
  -- in the field, above it or below it
  by_cases above : low ≤ i
  · have notUnder : ¬ i < low := by omega
    by_cases below : i < low + width
    · have reaches : i - low < width := by omega
      simp [inside, shifted, above, notUnder, below, reaches]
    · have misses : ¬ i - low < width := by omega
      simp [inside, shifted, below, misses]
  · have under : i < low := by omega
    simp [inside, above, under]

/-- A field that is the whole word. -/
theorem setField_whole (w v : BitVec n) : setField w v 0 n = v := by
  apply BitVec.eq_of_getLsbD_eq
  intro i inside
  rw [getLsbD_setField _ _ _ _ inside, if_pos ⟨Nat.zero_le i, by omega⟩, Nat.sub_zero]

theorem getField_whole (w : BitVec n) : getField w 0 n = w := by
  apply BitVec.eq_of_getLsbD_eq
  intro i inside
  rw [getLsbD_getField, decide_eq_true inside, Bool.true_and, Nat.zero_add]

/-- A field, kept in a narrower word and widened again. -/
theorem setWidth_setWidth_getField (w : BitVec n) (low : ℕ) {width m : ℕ} (fits : width ≤ m) :
    ((getField w low width).setWidth m).setWidth n = getField w low width := by
  apply BitVec.eq_of_getLsbD_eq
  intro i inside
  rw [BitVec.getLsbD_setWidth, BitVec.getLsbD_setWidth, getLsbD_getField]
  by_cases small : i < width
  · have narrow : i < m := by omega
    simp only [inside, narrow, decide_true, Bool.true_and]
  · simp only [small, decide_false, Bool.false_and, Bool.and_false]

/-- Only what fits into the field counts. -/
theorem setField_getField (w v : BitVec n) (low width : ℕ) :
    setField w (getField v 0 width) low width = setField w v low width := by
  have cut := getField_getField v 0 width
  simp only [getField, BitVec.ushiftRight_zero] at cut
  simp only [setField, getField, BitVec.ushiftRight_zero, cut]

/-- What is set is what is read, cut to the field. -/
theorem getField_setField_self (w v : BitVec n) {low width : ℕ} (fits : low + width ≤ n) :
    getField (setField w v low width) low width = getField v 0 width := by
  apply BitVec.eq_of_getLsbD_eq
  intro i inside
  rw [getLsbD_getField, getLsbD_getField, Nat.zero_add]
  by_cases small : i < width
  · rw [getLsbD_setField w v low width (by omega), if_pos ⟨by omega, by omega⟩,
      Nat.add_sub_cancel_left]
  · simp only [small, decide_false, Bool.false_and]

/-- Another field of the word is not touched. -/
theorem getField_setField_of_apart (w v : BitVec n) {low width low' width' : ℕ}
    (fits : low + width ≤ n) (apart : low + width ≤ low' ∨ low' + width' ≤ low) :
    getField (setField w v low' width') low width = getField w low width := by
  apply BitVec.eq_of_getLsbD_eq
  intro i inside
  rw [getLsbD_getField, getLsbD_getField]
  by_cases small : i < width
  · rw [getLsbD_setField w v low' width' (by omega), if_neg (by omega)]
  · simp only [small, decide_false, Bool.false_and]

/-- Every bit outside the field stays. -/
theorem getLsbD_setField_of_outside (w v : BitVec n) {low width i : ℕ}
    (outside : ¬(low ≤ i ∧ i < low + width)) :
    (setField w v low width).getLsbD i = w.getLsbD i := by
  by_cases inside : i < n
  · rw [getLsbD_setField _ _ _ _ inside, if_neg outside]
  · rw [BitVec.getLsbD_of_ge _ i (by omega), BitVec.getLsbD_of_ge _ i (by omega)]

end Librorc.Lib
