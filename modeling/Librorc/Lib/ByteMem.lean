import Mathlib.Logic.Basic
import Mathlib.Tactic.Common

/-!
# Bytes in memory

Values in a memory of bytes, the least significant byte first. A store may
leave out some of its bytes.
-/

namespace Librorc.Lib

/-- Bytes at their addresses. -/
abbrev ByteMem := ℕ → BitVec 8

/-- The byte of number `k`. -/
def byteOf {n : ℕ} (w : BitVec n) (k : ℕ) : BitVec 8 := w.extractLsb' (8 * k) 8

/-- The byte of number `k` of words that follow each other. -/
def wordsByte (ws : List (BitVec 32)) (k : ℕ) : BitVec 8 := byteOf (ws.getD (k / 4) 0) (k % 4)

namespace ByteMem

variable (mem : ByteMem)

def load16 (a : ℕ) : BitVec 16 := mem (a + 1) ++ mem a

def load32 (a : ℕ) : BitVec 32 := mem.load16 (a + 2) ++ mem.load16 a

/-- Writes `size` bytes from `a` on, but for those that are not enabled. -/
def store (a size : ℕ) (enabled : ℕ → Bool) (byte : ℕ → BitVec 8) : ByteMem := fun p =>
  if a ≤ p ∧ p < a + size ∧ enabled (p - a) = true then byte (p - a) else mem p

/-- Writes all of them. -/
def storeAll (a size : ℕ) (byte : ℕ → BitVec 8) : ByteMem :=
  mem.store a size (fun _ => true) byte

end ByteMem

/-! ## Bytes of a value -/

theorem getLsbD_byteOf {n : ℕ} (w : BitVec n) (k j : ℕ) :
    (byteOf w k).getLsbD j = (decide (j < 8) && w.getLsbD (8 * k + j)) :=
  BitVec.getLsbD_extractLsb' _ _ _ _

theorem eq_of_byteOf {n : ℕ} {w w' : BitVec n} (same : ∀ k, 8 * k < n → byteOf w k = byteOf w' k) :
    w = w' := by
  apply BitVec.eq_of_getLsbD_eq
  intro i inside
  have bit := congrArg (·.getLsbD (i % 8)) (same (i / 8) (by omega))
  have within : i % 8 < 8 := Nat.mod_lt _ (by omega)
  simp only [getLsbD_byteOf, within, decide_true, Bool.true_and, Nat.div_add_mod] at bit
  exact bit

theorem byteOf_setWidth {n m k : ℕ} (w : BitVec n) (inside : 8 * k + 8 ≤ m) :
    byteOf (w.setWidth m) k = byteOf w k := by
  apply BitVec.eq_of_getLsbD_eq
  intro j within
  have below : 8 * k + j < m := by omega
  simp only [getLsbD_byteOf, BitVec.getLsbD_setWidth, below, decide_true, Bool.true_and]

theorem byteOf_append_low {n m k : ℕ} (hi : BitVec n) (lo : BitVec m) (inside : 8 * k + 8 ≤ m) :
    byteOf (hi ++ lo) k = byteOf lo k := by
  apply BitVec.eq_of_getLsbD_eq
  intro j within
  have below : 8 * k + j < m := by omega
  simp only [getLsbD_byteOf, BitVec.getLsbD_append, below, if_true]

theorem byteOf_append_high {n m s : ℕ} (hi : BitVec n) (lo : BitVec m) (k : ℕ) (whole : m = 8 * s) :
    byteOf (hi ++ lo) (s + k) = byteOf hi k := by
  apply BitVec.eq_of_getLsbD_eq
  intro j within
  have above : ¬ 8 * (s + k) + j < m := by omega
  have rest : 8 * (s + k) + j - m = 8 * k + j := by omega
  simp only [getLsbD_byteOf, BitVec.getLsbD_append, above, if_false, rest]

theorem byteOf_byte (b : BitVec 8) : byteOf b 0 = b := by
  apply BitVec.eq_of_getLsbD_eq
  intro j within
  simp only [getLsbD_byteOf, within, decide_true, Bool.true_and, Nat.mul_zero, Nat.zero_add]

theorem wordsByte_singleton (w : BitVec 32) {k : ℕ} (inside : k < 4) :
    wordsByte [w] k = byteOf w k := by
  rw [wordsByte, Nat.div_eq_of_lt inside, Nat.mod_eq_of_lt inside]
  rfl

namespace ByteMem

variable (mem : ByteMem)

/-! ## Loads -/

theorem byteOf_load16 (a : ℕ) {k : ℕ} (inside : k < 2) : byteOf (mem.load16 a) k = mem (a + k) := by
  obtain rfl | rfl : k = 0 ∨ k = 1 := by omega
  · exact (byteOf_append_low _ _ (by omega)).trans (byteOf_byte _)
  · exact (byteOf_append_high (s := 1) _ _ 0 rfl).trans (byteOf_byte _)

theorem byteOf_load32 (a : ℕ) {k : ℕ} (inside : k < 4) : byteOf (mem.load32 a) k = mem (a + k) := by
  rcases Nat.lt_or_ge k 2 with low | high
  · exact (byteOf_append_low _ _ (by omega)).trans (mem.byteOf_load16 a low)
  · obtain ⟨j, rfl⟩ := Nat.exists_eq_add_of_le high
    rw [← Nat.add_assoc]
    exact (byteOf_append_high (s := 2) _ _ j rfl).trans (mem.byteOf_load16 (a + 2) (by omega))

/-- A word by its bytes. -/
theorem eq_load32 {a : ℕ} {w : BitVec 32} (bytes : ∀ k < 4, byteOf w k = mem (a + k)) :
    w = mem.load32 a :=
  eq_of_byteOf fun k inside => by
    rw [bytes k (by omega), mem.byteOf_load32 a (by omega)]

/-- The lower half of a word by its bytes. -/
theorem low_eq_load16 {a : ℕ} {w : BitVec 32} (bytes : ∀ k < 2, byteOf w k = mem (a + k)) :
    w.setWidth 16 = mem.load16 a :=
  eq_of_byteOf fun k inside => by
    rw [byteOf_setWidth w (by omega), bytes k (by omega), mem.byteOf_load16 a (by omega)]

theorem load32_congr {mem mem' : ByteMem} {a a' : ℕ}
    (same : ∀ k < 4, mem (a + k) = mem' (a' + k)) : mem.load32 a = mem'.load32 a' :=
  mem'.eq_load32 fun k inside => (mem.byteOf_load32 a inside).trans (same k inside)

/-! ## Stores -/

variable {mem}

theorem store_congr {a size : ℕ} {enabled enabled' : ℕ → Bool} {byte byte' : ℕ → BitVec 8}
    (same : ∀ k < size, enabled k = enabled' k ∧ byte k = byte' k) :
    mem.store a size enabled byte = mem.store a size enabled' byte' := by
  funext p
  unfold store
  by_cases inside : a ≤ p ∧ p < a + size
  · obtain ⟨enables, bytes⟩ := same (p - a) (by omega)
    rw [enables, bytes]
  · rw [if_neg (fun cond => inside ⟨cond.1, cond.2.1⟩),
      if_neg (fun cond => inside ⟨cond.1, cond.2.1⟩)]

/-- A store of which the bytes from `skip` on are enabled, `size` of them. -/
theorem store_window {a skip size room : ℕ} {enabled : ℕ → Bool} {byte byte' : ℕ → BitVec 8}
    (fits : skip + size ≤ room)
    (window : ∀ k < room, enabled k = true ↔ skip ≤ k ∧ k < skip + size)
    (bytes : ∀ k < size, byte' (skip + k) = byte k) :
    mem.store a room enabled byte' = mem.storeAll (a + skip) size byte := by
  funext p
  unfold storeAll store
  by_cases inside : a + skip ≤ p ∧ p < a + skip + size
  · have enables := (window (p - a) (by omega)).mpr (by omega)
    have shifted : p - a = skip + (p - (a + skip)) := by omega
    rw [if_pos ⟨by omega, by omega, enables⟩, if_pos ⟨inside.1, inside.2, rfl⟩, shifted]
    exact bytes _ (by omega)
  · refine (if_neg ?_).trans (if_neg fun cond => inside ⟨cond.1, cond.2.1⟩).symm
    rintro ⟨above, below, enables⟩
    have within := (window (p - a) (by omega)).mp enables
    omega

/-- What is behind a store. -/
theorem store_of_outside {a size p : ℕ} (outside : ¬ (a ≤ p ∧ p < a + size)) (enabled : ℕ → Bool)
    (byte : ℕ → BitVec 8) : mem.store a size enabled byte p = mem p :=
  if_neg fun cond => outside ⟨cond.1, cond.2.1⟩

end ByteMem

end Librorc.Lib
