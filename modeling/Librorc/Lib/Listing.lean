import Mathlib.Data.List.Basic
import Mathlib.Tactic.Common

/-!
# Listings that agree by index

Two listings name the same item at every index both have exactly when one of
them is the beginning of the other.
-/

namespace Librorc.Lib

variable {α : Type*} {xs ys : List α}

/-- One listing continues the other. -/
def Continues (xs ys : List α) : Prop := xs <+: ys ∨ ys <+: xs

/-- Where a listing agrees with a longer one, it is its beginning. -/
theorem prefix_of_agree (shorter : xs.length ≤ ys.length)
    (agree : ∀ (k : ℕ) (x y : α), xs[k]? = some x → ys[k]? = some y → x = y) : xs <+: ys := by
  rw [List.prefix_iff_getElem?]
  intro k inside
  have y := List.getElem?_eq_getElem (Nat.lt_of_lt_of_le inside shorter)
  rw [y, agree k _ _ (List.getElem?_eq_getElem inside) y]

theorem prefix_agrees (shorter : xs <+: ys) {k : ℕ} {x y : α} (left : xs[k]? = some x)
    (right : ys[k]? = some y) : x = y := by
  obtain ⟨rest, rfl⟩ := shorter
  have inside := (List.getElem?_eq_some_iff.mp left).1
  rw [List.getElem?_append_left inside, left] at right
  exact Option.some.inj right

theorem continues_iff :
    Continues xs ys ↔
      ∀ (k : ℕ) (x y : α), xs[k]? = some x → ys[k]? = some y → x = y := by
  constructor
  · rintro (shorter | shorter) k x y left right
    · exact prefix_agrees shorter left right
    · exact (prefix_agrees shorter right left).symm
  · intro agree
    rcases Nat.le_total xs.length ys.length with shorter | shorter
    · exact .inl (prefix_of_agree shorter agree)
    · exact .inr (prefix_of_agree shorter (fun k y x right left => (agree k x y left right).symm))

/-- The same for the indices below a bound. -/
theorem continues_take_iff (n : ℕ) :
    Continues (xs.take n) (ys.take n) ↔
      ∀ k < n, ∀ x y : α, xs[k]? = some x → ys[k]? = some y → x = y := by
  rw [continues_iff]
  constructor
  · intro agree k below x y left right
    refine agree k x y ?_ ?_
    · rw [List.getElem?_take_of_lt below, left]
    · rw [List.getElem?_take_of_lt below, right]
  · intro agree k x y left right
    by_cases below : k < n
    · rw [List.getElem?_take_of_lt below] at left right
      exact agree k below x y left right
    · rw [List.getElem?_take_eq_none (Nat.le_of_not_lt below)] at left
      cases left

/-! ## Parts of a listing -/

theorem getD_take (default : α) {k n : ℕ} (below : k < n) :
    (xs.take n).getD k default = xs.getD k default := by
  rw [List.getD_eq_getElem?_getD, List.getElem?_take_of_lt below, List.getD_eq_getElem?_getD]

theorem getD_drop (default : α) {k n : ℕ} (behind : n ≤ k) :
    (xs.drop n).getD (k - n) default = xs.getD k default := by
  rw [List.getD_eq_getElem?_getD, List.getElem?_drop, Nat.add_sub_of_le behind,
    List.getD_eq_getElem?_getD]

end Librorc.Lib
