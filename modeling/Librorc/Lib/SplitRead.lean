import Mathlib.Data.Nat.Notation
import Mathlib.Tactic.Common

/-!
# Values read in two parts

A value too wide for one access is read as an upper and a lower part, each from
the value as it is at that moment. With base `B` the result is `splice B a b`
for the values `a` and `b` of the two moments.
-/

namespace Librorc.Lib

/-- The upper part of `a` over the lower part of `b`. -/
def splice (B a b : ℕ) : ℕ := B * (a / B) + b % B

variable {B a b : ℕ}

/-- With the same upper part nothing is torn: the lower part was read last. -/
theorem splice_eq_right (same : a / B = b / B) : splice B a b = b := by
  rw [splice, same, Nat.div_add_mod]

/-- The upper part is too old: the result lies a whole base under `b`. -/
theorem splice_add_le (older : a / B < b / B) : splice B a b + B ≤ b := by
  have whole := Nat.div_add_mod b B
  have scaled : B * (a / B) + B ≤ B * (b / B) := Nat.mul_le_mul_left B older
  unfold splice
  omega

/-- The upper part is too new: the result lies a whole base over `b`. -/
theorem le_splice (newer : b / B < a / B) : b + B ≤ splice B a b := by
  have whole := Nat.div_add_mod b B
  have scaled : B * (b / B) + B ≤ B * (a / B) := Nat.mul_le_mul_left B newer
  unfold splice
  omega

/-- Among values less than a base apart, the result is one of them exactly when
the two upper parts agree. -/
theorem splice_held_iff {Held : ℕ → Prop} (held : Held b)
    (narrow : ∀ v w, Held v → Held w → v < w + B) :
    Held (splice B a b) ↔ a / B = b / B := by
  constructor
  · intro spliced
    rcases Nat.lt_trichotomy (a / B) (b / B) with older | same | newer
    · have under := splice_add_le older
      have near := narrow _ _ held spliced
      omega
    · exact same
    · have above := le_splice newer
      have near := narrow _ _ spliced held
      omega
  · intro same
    rw [splice_eq_right same]
    exact held

end Librorc.Lib
