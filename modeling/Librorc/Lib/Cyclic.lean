import Mathlib.Data.Nat.ModEq
import Mathlib.Logic.Function.Basic
import Mathlib.Order.Interval.Finset.Nat
import Mathlib.Tactic.Common

/-!
# Numbered items in a ring of slots

Item number `k` of an unbounded sequence lives in slot `k % n`. A window of at
most `n` consecutive numbers meets every slot at most once, so inside a window
a slot determines the number (`slotNumber`), and clearing the slots of a
window is an update per number (`clearFrom`).
-/

namespace Librorc.Lib

/-- The slot after slot `i` in a ring of `n` slots. -/
def cyclicNext (n i : ℕ) : ℕ := if i < n - 1 then i + 1 else 0

variable {n f k j m : ℕ}

theorem cyclicNext_mod (positive : 0 < n) (k : ℕ) : cyclicNext n (k % n) = (k + 1) % n := by
  have bound := Nat.mod_lt k positive
  unfold cyclicNext
  split
  · rename_i inside
    rw [Nat.add_mod, Nat.mod_eq_of_lt (a := k % n + 1 % n)]
    · rw [Nat.mod_eq_of_lt (a := 1) (by omega)]
    · rw [Nat.mod_eq_of_lt (a := 1) (by omega)]
      omega
  · rename_i last
    have wraps : k % n + 1 = n := by omega
    rw [← Nat.mod_add_mod, wraps, Nat.mod_self]

/-- Two numbers of one window in the same slot are equal. -/
theorem eq_of_window (same : j % n = k % n) (lowJ : f ≤ j) (highJ : j < f + n) (lowK : f ≤ k)
    (highK : k < f + n) : j = k := by
  obtain ⟨a, rfl⟩ := Nat.exists_eq_add_of_le lowJ
  obtain ⟨b, rfl⟩ := Nat.exists_eq_add_of_le lowK
  have offsets : a ≡ b [MOD n] := Nat.ModEq.add_left_cancel' f same
  rw [offsets.eq_of_lt_of_lt (by omega) (by omega)]

/-- From slot `i` forward to slot `j`. -/
def cyclicDistance (n i j : ℕ) : ℕ := if i ≤ j then j - i else n - (i - j)

/-- Inside a window the slots are as far apart as the numbers. -/
theorem cyclicDistance_mod (low : f ≤ k) (high : k < f + n) :
    cyclicDistance n (f % n) (k % n) = k - f := by
  have positive : 0 < n := by omega
  have boundF := Nat.mod_lt f positive
  obtain ⟨d, rfl⟩ := Nat.exists_eq_add_of_le low
  unfold cyclicDistance
  rcases Nat.lt_or_ge (f % n + d) n with straight | wraps
  · have slot : (f + d) % n = f % n + d := by
      rw [← Nat.mod_add_mod, Nat.mod_eq_of_lt straight]
    rw [slot, if_pos (by omega)]
    omega
  · have slot : (f + d) % n = f % n + d - n := by
      rw [← Nat.mod_add_mod, Nat.mod_eq_sub_mod wraps, Nat.mod_eq_of_lt (by omega)]
    rw [slot, if_neg (by omega)]
    omega

/-! ## The number of a slot -/

/-- The number in the window `[f, f + n)` that slot `i` stands for. -/
def slotNumber (n f i : ℕ) : ℕ := f + (i + (n - f % n)) % n

theorem le_slotNumber (n f i : ℕ) : f ≤ slotNumber n f i := Nat.le_add_right _ _

theorem slotNumber_lt (positive : 0 < n) (f i : ℕ) : slotNumber n f i < f + n :=
  Nat.add_lt_add_left (Nat.mod_lt _ positive) f

theorem slotNumber_mod (inside : k < n) (f : ℕ) : slotNumber n f k % n = k := by
  have positive : 0 < n := by omega
  have bound := Nat.mod_lt f positive
  rw [slotNumber, Nat.add_mod_mod, ← Nat.mod_add_mod,
    show f % n + (k + (n - f % n)) = k + n by omega, Nat.add_mod_right, Nat.mod_eq_of_lt inside]

/-- Inside the window, slot and number determine each other. -/
theorem slotNumber_eq_iff (inside : j < n) (low : f ≤ k) (high : k < f + n) :
    slotNumber n f j = k ↔ k % n = j := by
  have positive : 0 < n := by omega
  constructor
  · rintro rfl
    exact slotNumber_mod inside f
  · intro slot
    exact eq_of_window ((slotNumber_mod inside f).trans slot.symm) (le_slotNumber n f j)
      (slotNumber_lt positive f j) low high

theorem slotNumber_mod_self (low : f ≤ k) (high : k < f + n) : slotNumber n f (k % n) = k :=
  (slotNumber_eq_iff (Nat.mod_lt k (by omega)) low high).mpr rfl

/-- When the window moves on, the slots left behind stand for the numbers of
the next lap. -/
theorem slotNumber_advance (inside : k < n) (low : f ≤ j) (high : j ≤ f + n) :
    slotNumber n j k = if slotNumber n f k < j then slotNumber n f k + n else slotNumber n f k := by
  have positive : 0 < n := by omega
  have lower := le_slotNumber n f k
  have upper := slotNumber_lt positive f k
  split
  · rw [slotNumber_eq_iff inside (by omega) (by omega), Nat.add_mod_right, slotNumber_mod inside]
  · rw [slotNumber_eq_iff inside (by omega) (by omega), slotNumber_mod inside]

/-- Counting slots by their numbers is counting the numbers of the window. -/
theorem card_filter_slotNumber (n f : ℕ) (p : ℕ → Prop) [DecidablePred p] :
    ((Finset.range n).filter fun i => p (slotNumber n f i)).card =
      ((Finset.Ico f (f + n)).filter p).card := by
  have inSlots {i : ℕ} : i ∈ (Finset.range n).filter (fun i => p (slotNumber n f i)) ↔
      i < n ∧ p (slotNumber n f i) := by rw [Finset.mem_filter, Finset.mem_range]
  have inWindow {k : ℕ} : k ∈ (Finset.Ico f (f + n)).filter p ↔ (f ≤ k ∧ k < f + n) ∧ p k := by
    rw [Finset.mem_filter, Finset.mem_Ico]
  refine Finset.card_nbij' (slotNumber n f) (· % n) ?_ ?_ ?_ ?_
  · intro i member
    obtain ⟨inside, holds⟩ := inSlots.mp member
    exact inWindow.mpr
      ⟨⟨le_slotNumber n f i, slotNumber_lt (Nat.zero_lt_of_lt inside) f i⟩, holds⟩
  · intro k member
    obtain ⟨⟨low, high⟩, holds⟩ := inWindow.mp member
    refine inSlots.mpr ⟨Nat.mod_lt k (by omega), ?_⟩
    rwa [slotNumber_mod_self low high]
  · intro i member
    exact slotNumber_mod (inSlots.mp member).1 f
  · intro k member
    obtain ⟨⟨low, high⟩, -⟩ := inWindow.mp member
    exact slotNumber_mod_self low high

/-! ## Clearing a window -/

variable {α : Type*}

/-- `mem` with the slots of the numbers `start, …, start + m - 1` set to
`z`. -/
def clearFrom (mem : ℕ → α) (z : α) (n start m : ℕ) : ℕ → α :=
  fun i => if ∃ j < m, (start + j) % n = i then z else mem i

@[simp] theorem clearFrom_zero (mem : ℕ → α) (z : α) (n start : ℕ) :
    clearFrom mem z n start 0 = mem := by
  funext i
  simp [clearFrom]

theorem clearFrom_succ (mem : ℕ → α) (z : α) (n start m : ℕ) :
    clearFrom mem z n start (m + 1) =
      Function.update (clearFrom mem z n start m) ((start + m) % n) z := by
  funext i
  by_cases last : i = (start + m) % n
  · subst last
    rw [Function.update_self, clearFrom, if_pos ⟨m, Nat.lt_succ_self m, rfl⟩]
  · rw [Function.update_of_ne last]
    have same : (∃ j < m + 1, (start + j) % n = i) ↔ ∃ j < m, (start + j) % n = i := by
      constructor
      · rintro ⟨j, below, slot⟩
        rcases Nat.lt_succ_iff_lt_or_eq.mp below with below | rfl
        · exact ⟨j, below, slot⟩
        · exact absurd slot.symm last
      · rintro ⟨j, below, slot⟩
        exact ⟨j, by omega, slot⟩
    simp only [clearFrom, same]

/-- The slot behind a window shorter than the ring is not cleared. -/
theorem clearFrom_next (mem : ℕ → α) (z : α) (start : ℕ) (short : m < n) :
    clearFrom mem z n start m ((start + m) % n) = mem ((start + m) % n) := by
  refine if_neg ?_
  rintro ⟨j, below, slot⟩
  have := eq_of_window (f := start) slot (by omega) (by omega) (by omega) (by omega)
  omega

theorem clearFrom_mod (mem : ℕ → α) (z : α) (n start m : ℕ) :
    clearFrom mem z n (start % n) m = clearFrom mem z n start m := by
  funext i
  simp only [clearFrom, Nat.mod_add_mod]

/-- A slot of the ring is cleared when its number lies in the window. -/
theorem clearFrom_apply (mem : ℕ → α) (z : α) (start : ℕ) (inside : k < n) (atMost : m ≤ n) :
    clearFrom mem z n start m k = if slotNumber n start k < start + m then z else mem k := by
  have positive : 0 < n := by omega
  have lower := le_slotNumber n start k
  have same : (∃ j < m, (start + j) % n = k) ↔ slotNumber n start k < start + m := by
    constructor
    · rintro ⟨j, below, slot⟩
      rw [(slotNumber_eq_iff inside (by omega) (by omega)).mpr slot]
      omega
    · intro below
      refine ⟨slotNumber n start k - start, by omega, ?_⟩
      rw [show start + (slotNumber n start k - start) = slotNumber n start k by omega,
        slotNumber_mod inside]
  simp only [clearFrom, same]

/-- Cells behind the ring are never cleared. -/
theorem clearFrom_of_le (mem : ℕ → α) (z : α) (start m : ℕ) (positive : 0 < n)
    (outside : n ≤ k) : clearFrom mem z n start m k = mem k := by
  refine if_neg ?_
  rintro ⟨j, -, slot⟩
  have := Nat.mod_lt (start + j) positive
  omega

end Librorc.Lib
