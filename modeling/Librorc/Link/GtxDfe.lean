import Librorc.Link.Gtx
import Mathlib.Tactic.IntervalCases

/-!
# The taps of the decision feedback equalizer

Four taps share the RXDFE register with status bits, three of them in
sign-magnitude form. `setDfeTaps` clears bits 16 to 0 before it puts the taps
in; the sign of the fourth is bit 17.
-/

namespace Librorc

open Librorc.Lib

/-- `gtxdfe_taps`. -/
@[ext]
structure GtxdfeTaps where
  tap1 : Int
  tap2 : Int
  tap3 : Int
  tap4 : Int
deriving DecidableEq

/-- What the fields can hold. -/
structure GtxdfeTaps.Valid (taps : GtxdfeTaps) : Prop where
  tap1 : 0 ≤ taps.tap1 ∧ taps.tap1 ≤ 31
  tap2 : -15 ≤ taps.tap2 ∧ taps.tap2 ≤ 15
  tap3 : -7 ≤ taps.tap3 ∧ taps.tap3 ≤ 7
  tap4 : -7 ≤ taps.tap4 ∧ taps.tap4 ≤ 7

namespace Gtx

def signedTap2Val (tap : Int) (width : Nat) : Word32 :=
  if tap < 0 then BitVec.ofInt 32 (-tap) ||| (1#32 <<< (width - 1)) else BitVec.ofInt 32 tap

def signedVal2Tap (value : Word32) (width : Nat) : Int :=
  let tap : Int := (value &&& ((1#32 <<< (width - 1)) - 1#32)).toNat
  if value &&& (1#32 <<< (width - 1)) ≠ 0 then -tap else tap

variable {σ : Type} (l : Link) (dev : BarDevice σ)

def dfeTaps (s : σ) : GtxdfeTaps × σ :=
  let (value, s) := l.gtxReg dev Reg.gtxRxdfe s
  ({ tap1 := (value &&& 0x1f).toNat
     tap2 := signedVal2Tap ((value >>> 5) &&& 0x1f) 5
     tap3 := signedVal2Tap ((value >>> 10) &&& 0x0f) 4
     tap4 := signedVal2Tap ((value >>> 14) &&& 0x0f) 4 }, s)

/-- What `setDfeTaps` makes of the register. -/
def putTaps (taps : GtxdfeTaps) (value : Word32) : Word32 :=
  let value := value &&& ~~~0x1ffff
  let value := value ||| (BitVec.ofInt 32 taps.tap1 &&& 0x1f)
  let value := value ||| ((signedTap2Val taps.tap2 5 &&& 0x1f) <<< 5)
  let value := value ||| ((signedTap2Val taps.tap3 4 &&& 0x0f) <<< 10)
  value ||| ((signedTap2Val taps.tap4 4 &&& 0x0f) <<< 14)

def setDfeTaps (taps : GtxdfeTaps) (s : σ) : σ :=
  let (value, s) := l.gtxReg dev Reg.gtxRxdfe s
  l.setGtxReg dev Reg.gtxRxdfe (putTaps taps value) s

/-- The taps come back, and bits 31 to 18 are as before. -/
structure TapsKept (taps : GtxdfeTaps) (b b' : Bar) : Prop where
  taps : (dfeTaps l Bar.storage b').1 = taps
  status : ∀ i, 18 ≤ i → (b'.words (l.gtxAddr Reg.gtxRxdfe)).getLsbD i =
    (b.words (l.gtxAddr Reg.gtxRxdfe)).getLsbD i

/-! ## The fields -/

/-- What a word has after the taps are put in: all of it but the sign of tap 4
is new up to bit 17. -/
theorem getLsbD_putTaps (taps : GtxdfeTaps) (w : Word32) {i : Nat} (inside : i < 32) :
    (putTaps taps w).getLsbD i =
      if i < 5 then (BitVec.ofInt 32 taps.tap1).getLsbD i
      else if i < 10 then (signedTap2Val taps.tap2 5).getLsbD (i - 5)
      else if i < 14 then (signedTap2Val taps.tap3 4).getLsbD (i - 10)
      else if i < 18 then
        (signedTap2Val taps.tap4 4).getLsbD (i - 14) || decide (i = 17) && w.getLsbD 17
      else w.getLsbD i := by
  have ones5 : (0x1f : Word32) = BitVec.ofNat 32 (2 ^ 5 - 1) := rfl
  have ones4 : (0x0f : Word32) = BitVec.ofNat 32 (2 ^ 4 - 1) := rfl
  have ones17 : (0x1ffff : Word32) = BitVec.ofNat 32 (2 ^ 17 - 1) := rfl
  unfold putTaps
  simp only [ones5, ones4, ones17, BitVec.getLsbD_or, BitVec.getLsbD_and, BitVec.getLsbD_not,
    BitVec.getLsbD_shiftLeft, getLsbD_ones, inside, decide_true, Bool.true_and]
  grind

/-- The sign bit of tap 4 that was there before. -/
def staleSign (w : Word32) : Word32 := if w.getLsbD 17 then 1#32 <<< 3 else 0

section Fields

variable (taps : GtxdfeTaps) (w : Word32)

theorem getField_putTaps_tap1 :
    getField (putTaps taps w) 0 5 = getField (BitVec.ofInt 32 taps.tap1) 0 5 := by
  rw [getField_eq_iff]
  intro i small
  rw [getLsbD_putTaps _ _ (by omega), if_pos (by omega)]

theorem getField_putTaps_tap2 :
    getField (putTaps taps w) 5 5 = getField (signedTap2Val taps.tap2 5) 0 5 := by
  rw [getField_eq_iff]
  intro i small
  rw [getLsbD_putTaps _ _ (by omega), if_neg (by omega), if_pos (by omega),
    Nat.add_sub_cancel_left, Nat.zero_add]

theorem getField_putTaps_tap3 :
    getField (putTaps taps w) 10 4 = getField (signedTap2Val taps.tap3 4) 0 4 := by
  rw [getField_eq_iff]
  intro i small
  rw [getLsbD_putTaps _ _ (by omega), if_neg (by omega), if_neg (by omega), if_pos (by omega),
    Nat.add_sub_cancel_left, Nat.zero_add]

theorem getField_putTaps_tap4 :
    getField (putTaps taps w) 14 4 =
      getField (signedTap2Val taps.tap4 4 ||| staleSign w) 0 4 := by
  have stale (i : Nat) (small : i < 4) :
      (staleSign w).getLsbD i = (decide (14 + i = 17) && w.getLsbD 17) := by
    unfold staleSign
    interval_cases i <;> cases w.getLsbD 17 <;> rfl
  rw [getField_eq_iff]
  intro i small
  rw [getLsbD_putTaps _ _ (by omega), if_neg (by omega), if_neg (by omega), if_neg (by omega),
    if_pos (by omega), Nat.add_sub_cancel_left, Nat.zero_add, BitVec.getLsbD_or, stale i small]

end Fields

/-! ## Sign and magnitude -/

theorem tap1_roundtrip {tap : Int} (range : 0 ≤ tap ∧ tap ≤ 31) :
    ((getField (BitVec.ofInt 32 tap) 0 5).toNat : Int) = tap := by
  obtain ⟨low, high⟩ := range
  interval_cases tap <;> rfl

theorem signed_roundtrip_5 {tap : Int} (range : -15 ≤ tap ∧ tap ≤ 15) :
    signedVal2Tap (getField (signedTap2Val tap 5) 0 5) 5 = tap := by
  obtain ⟨low, high⟩ := range
  interval_cases tap <;> rfl

theorem signed_roundtrip_4 {tap : Int} (range : -7 ≤ tap ∧ tap ≤ 7) :
    signedVal2Tap (getField (signedTap2Val tap 4) 0 4) 4 = tap := by
  obtain ⟨low, high⟩ := range
  interval_cases tap <;> rfl

/-- A sign bit that stays makes every tap negative. -/
theorem signed_stale {tap : Int} (range : -7 ≤ tap ∧ tap ≤ 7) :
    signedVal2Tap (getField (signedTap2Val tap 4 ||| (1#32 <<< 3)) 0 4) 4 = -|tap| := by
  obtain ⟨low, high⟩ := range
  interval_cases tap <;> rfl

theorem tap4_roundtrip_iff {tap : Int} (range : -7 ≤ tap ∧ tap ≤ 7) (w : Word32) :
    signedVal2Tap (getField (signedTap2Val tap 4 ||| staleSign w) 0 4) 4 = tap ↔
      w.getLsbD 17 = false ∨ tap ≤ 0 := by
  unfold staleSign
  cases w.getLsbD 17 with
  | false =>
      rw [if_neg Bool.false_ne_true, BitVec.ofNat_eq_ofNat, BitVec.or_zero]
      exact iff_of_true (signed_roundtrip_4 range) (.inl rfl)
  | true =>
      rw [if_pos rfl, signed_stale range]
      simp [neg_eq_iff_eq_neg, abs_eq_neg_self]

/-! ## The round trip -/

theorem dfeTaps_eq (b : Bar) :
    (dfeTaps l Bar.storage b).1 =
      { tap1 := (getField (b.words (l.gtxAddr Reg.gtxRxdfe)) 0 5).toNat
        tap2 := signedVal2Tap (getField (b.words (l.gtxAddr Reg.gtxRxdfe)) 5 5) 5
        tap3 := signedVal2Tap (getField (b.words (l.gtxAddr Reg.gtxRxdfe)) 10 4) 4
        tap4 := signedVal2Tap (getField (b.words (l.gtxAddr Reg.gtxRxdfe)) 14 4) 4 } := by
  rw [getField, BitVec.ushiftRight_zero]
  rfl

theorem setDfeTaps_words (taps : GtxdfeTaps) (b : Bar) :
    (setDfeTaps l Bar.storage taps b).words (l.gtxAddr Reg.gtxRxdfe) =
      putTaps taps (b.words (l.gtxAddr Reg.gtxRxdfe)) := by
  unfold setDfeTaps
  rw [Link.setGtxReg_storage_words, Function.update_self, Link.gtxReg_storage_fst]

/-- **Equalizer taps.** Taps in range come back, and the status bits stay,
exactly when bit 17 was clear before or tap 4 is not positive. -/
theorem setDfeTaps_kept_iff (l : Link) (b : Bar) {taps : GtxdfeTaps} (valid : taps.Valid) :
    TapsKept l taps b (setDfeTaps l Bar.storage taps b) ↔
      (b.words (l.gtxAddr Reg.gtxRxdfe)).getLsbD 17 = false ∨ taps.tap4 ≤ 0 := by
  have read : (dfeTaps l Bar.storage (setDfeTaps l Bar.storage taps b)).1 =
      { taps with
        tap4 := signedVal2Tap (getField (signedTap2Val taps.tap4 4 |||
          staleSign (b.words (l.gtxAddr Reg.gtxRxdfe))) 0 4) 4 } := by
    rw [dfeTaps_eq, setDfeTaps_words, getField_putTaps_tap1, getField_putTaps_tap2,
      getField_putTaps_tap3, getField_putTaps_tap4, tap1_roundtrip valid.tap1,
      signed_roundtrip_5 valid.tap2, signed_roundtrip_4 valid.tap3]
  rw [← tap4_roundtrip_iff valid.tap4]
  constructor
  · intro kept
    have taps := kept.taps
    rw [read] at taps
    exact congrArg GtxdfeTaps.tap4 taps
  · intro tap4
    refine ⟨?_, fun i above => ?_⟩
    · rw [read, tap4]
    · rw [setDfeTaps_words]
      by_cases inside : i < 32
      · rw [getLsbD_putTaps _ _ inside, if_neg (by omega), if_neg (by omega), if_neg (by omega),
          if_neg (by omega)]
      · rw [BitVec.getLsbD_of_ge _ i (by omega), BitVec.getLsbD_of_ge _ i (by omega)]

/-- Taps of 1, into a register of zeros. -/
theorem setDfeTaps_kept_iff_ones :
    let l : Link := ⟨0⟩
    let b : Bar := ⟨fun _ => 0, []⟩
    (⟨1, 1, 1, 1⟩ : GtxdfeTaps).Valid ∧
      (TapsKept l ⟨1, 1, 1, 1⟩ b (setDfeTaps l Bar.storage ⟨1, 1, 1, 1⟩ b) ↔
        (b.words (l.gtxAddr Reg.gtxRxdfe)).getLsbD 17 = false ∨ (1 : Int) ≤ 0) := by
  have valid : (⟨1, 1, 1, 1⟩ : GtxdfeTaps).Valid :=
    ⟨by decide, by decide, by decide, by decide⟩
  exact ⟨valid, setDfeTaps_kept_iff ⟨0⟩ ⟨fun _ => 0, []⟩ valid⟩

/-- Tap 4 is -1 before and is set to 1. -/
theorem not_tapsKept_signCleared :
    let l : Link := ⟨0⟩
    let b : Bar := ⟨fun _ => 0x24000, []⟩
    (dfeTaps l Bar.storage b).1 = ⟨0, 0, 0, -1⟩ ∧
      (dfeTaps l Bar.storage (setDfeTaps l Bar.storage ⟨0, 0, 0, 1⟩ b)).1 = ⟨0, 0, 0, -1⟩ ∧
      ¬TapsKept l ⟨0, 0, 0, 1⟩ b (setDfeTaps l Bar.storage ⟨0, 0, 0, 1⟩ b) := by
  have before : (dfeTaps ⟨0⟩ Bar.storage ⟨fun _ => 0x24000, []⟩).1 = ⟨0, 0, 0, -1⟩ := by decide
  have after : (dfeTaps ⟨0⟩ Bar.storage (setDfeTaps ⟨0⟩ Bar.storage ⟨0, 0, 0, 1⟩
      ⟨fun _ => 0x24000, []⟩)).1 = ⟨0, 0, 0, -1⟩ := by decide
  refine ⟨before, after, fun kept => ?_⟩
  exact absurd (after.symm.trans kept.taps) (by decide)

end Gtx

end Librorc
